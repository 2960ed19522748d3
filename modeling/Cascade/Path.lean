/-!
# Paths

A path is the names on the way to a file, with slashes between them where it is written.  Doubled
slashes and names that stay where they are say nothing, and two points lead up.

`ofText` goes by the text alone; `through?` needs a directory before every name, as a look at the
files themselves does.
-/

namespace Cascade

/-- The names on the way to a file.  A path from the root begins with an empty name, and one that
leaves the place where it starts begins with the names that lead up. -/
abbrev Path := List String

namespace Path

/-- The names of a written path, also those that say nothing. -/
def written (s : String) : List String := s.splitOn "/"

def stays (name : String) : Bool := name = "" || name = "."

/-- Whether a path needs no file on the way: it ends at the root, where it starts, or above. -/
def isBase (p : Path) : Bool := p = [""] || p.all (· = "..")

/-- The directory around the end of a path; the root is its own. -/
def up (p : Path) : Path :=
  if p = [""] then p else if p.isBase then p ++ [".."] else p.dropLast

def step (p : Path) (name : String) : Path :=
  if stays name then p else if name = ".." then p.up else p ++ [name]

def origin (s : String) : Path := if s.toList.head? = some '/' then [""] else []

def ofText (s : String) : Path := (written s).foldl step (origin s)

/-- The path that is written, if it goes through directories only. -/
def through? (isDirectory : Path → Bool) (s : String) : Option Path :=
  (written s).foldlM (fun p name ↦ if isDirectory p then some (p.step name) else none) (origin s)

def leadsTo (p q : Path) : Bool := p.isPrefixOf q && p ≠ q

/-- The number of bytes of a path where it is written, with a slash before every name. -/
def size (p : Path) : Nat := p.foldr (fun name size ↦ name.utf8ByteSize + 1 + size) 0

/-- The names of a written path but the last that says something. -/
def way (s : String) : List String := (((written s).reverse.dropWhile stays).drop 1).reverse

def longestName : Nat := 255

def longestText : Nat := 4095

def mayName (name : String) : Bool :=
  name.utf8ByteSize ≤ longestName && name.toList.all (· ≠ '\x00')

end Path

end Cascade
