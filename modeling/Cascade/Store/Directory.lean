import Cascade.Path
import Cascade.Store.Table

/-!
# Files and directories

The place for durable tables: the files that hold tables, the files that hold something else, and
the directories that were made.  A directory that something lies in is there, too.
-/

namespace Cascade.Store

/-- A place for files. -/
structure Directory where
  /-- Files that hold no tables. -/
  plain : List Path
  made : List Path
  tables : List (Path × Tables)
deriving Inhabited

namespace Directory

def ofPlain (names : List String) : Directory := ⟨names.map Path.ofText, [], []⟩

def get? (d : Directory) (p : Path) : Option Tables :=
  (d.tables.find? fun e ↦ e.1 = p).map (·.2)

def put (d : Directory) (p : Path) (t : Tables) : Directory :=
  { d with tables := (p, t) :: d.tables.filter fun e ↦ e.1 ≠ p }

def isFile (d : Directory) (p : Path) : Bool := d.plain.contains p || (d.get? p).isSome

def isDirectory (d : Directory) (p : Path) : Bool :=
  p.isBase || d.made.contains p ||
    (d.plain ++ d.made ++ d.tables.map (·.1)).any fun q ↦ p.leadsTo q

def hasFile (d : Directory) (s : String) : Bool :=
  (Path.through? d.isDirectory s).any d.isFile

/-- The place with a directory at the end of a path, unless a file is there. -/
def make? (d : Directory) (p : Path) : Option Directory :=
  if d.isDirectory p then some d
  else if d.isFile p then none
  else some { d with made := p :: d.made }

/-- The place with the directories before the last name of a written path, made one after the
other. -/
def makeWay? (d : Directory) (s : String) : Option Directory :=
  let step (dp : Directory × Path) (name : String) : Option (Directory × Path) :=
    let q := dp.2.step name
    if Path.mayName name then (dp.1.make? q).map (·, q) else none
  if Path.longestText < Path.size (Path.way s) then none
  else ((Path.way s).foldlM step (d, Path.origin s)).map (·.1)

/-- The most bytes of a path under which a file can be opened. -/
def longestPath : Nat := 495

/-- The path of a written name under which a file can be opened: there is a directory for it, and
none in its place.  What two points lead out of need not be there, but it is no file. -/
def openable? (d : Directory) (s : String) : Option Path := do
  let p ← (Path.written s).foldlM (fun p name ↦
    if Path.mayName name && (Path.stays name || name = ".." || !d.isFile p) then some (p.step name)
    else none) (Path.origin s)
  if longestPath < p.size || d.isDirectory p || !d.isDirectory p.up then none else return p

end Directory

end Cascade.Store
