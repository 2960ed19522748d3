import Cascade.Store.Address
import Cascade.Store.Backend
import Cascade.Store.Directory

/-!
# Opening a store

The settings name a kind of store and a path.  A store within the program begins empty each time; a
durable one is found again under its path, and the directories on the way to it are made first.
Tables without a file begin empty each time, too.  Opening declares the components and dependencies
of the settings.
-/

namespace Cascade.Store.Directory

/-- The most bytes that the name of a file of tables may have: a file of changes lies beside it
under a longer name. -/
def longestTablesName : Nat := 247

/-- Tables that were found, or that begin empty, with components and dependencies declared in
them. -/
def openTables (d : Directory) (p : Path) (components : List (ComponentId × String))
    (edges : List (ComponentId × ComponentId)) : Except StoreError Tables :=
  if d.plain.contains p || p.getLast?.any (longestTablesName < ·.utf8ByteSize) then
    .error .migration
  else ((d.get? p).getD .empty).seed components edges

/-- Opens the tables of a file.  The flag says whether the file must be there. -/
def openFile (d : Directory) (found : Bool) (name : String)
    (components : List (ComponentId × String)) (edges : List (ComponentId × ComponentId)) :
    Except StoreError Tables × Directory :=
  match d.openable? name with
  | none => (.error .database, d)
  | some p =>
    if found && !d.isFile p then (.error .database, d)
    else
      match d.openTables p components edges with
      | .ok t => (.ok t, d.put p t)
      | .error e => (.error e, d)

/-- Opens durable tables under a path, to which the way is made. -/
def openDurable (d : Directory) (path : String) (components : List (ComponentId × String))
    (edges : List (ComponentId × ComponentId)) : Except StoreError Tables × Directory :=
  match Address.ofText? path with
  | none => (.error .database, d)
  | some .nowhere => (Tables.empty.seed components edges, d)
  | some (.file name) => d.openFile false name components edges
  | some (.found name) => d.openFile true name components edges

def openStore (d : Directory) (kind path : String) (components : List (ComponentId × String))
    (edges : List (ComponentId × ComponentId)) : Except StoreError Backend × Directory :=
  if kind = "memory" then (.ok (.memory .empty), d)
  else if kind = "sqlite" then
    match d.makeWay? path with
    | none => (.error .io, d)
    | some d =>
      let (t, d) := d.openDurable path components edges
      (t.map .durable, d)
  else (.error (.unknownType kind), d)

/-- Leaves the tables of an open store under its path, if they are kept in a file. -/
def close (d : Directory) (path : String) : Backend → Directory
  | .memory _ => d
  | .durable t =>
    match Address.ofText? path with
    | some (.file name) | some (.found name) => d.put (Path.ofText name) t
    | _ => d

end Cascade.Store.Directory
