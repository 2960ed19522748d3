import Cascade.Text.Blank
import Cascade.Text.Percent

/-!
# Where durable tables are kept

The settings write the place of the tables as an address: the name of a file, in which percent signs
may stand for bytes, or the word for tables without a file.  A scheme and two slashes before it say
nothing, and a question mark spoils the address.  A name may in turn be the address of a file, which
begins with a scheme of its own and may end with parameters.
-/

namespace Cascade.Store

/-- Where tables are kept. -/
inductive Address where
  /-- In no file: they begin empty each time. -/
  | nowhere
  /-- In the file of a name, which is made if it is not there. -/
  | file (name : String)
  /-- In the file of a name, which must be there. -/
  | found (name : String)
deriving DecidableEq, Repr

namespace Address

/-- The word for tables without a file. -/
def nowhereWord : String := ":memory:"

/-- A text without any number of repetitions of a beginning.  The first argument bounds it. -/
def dropAll (lead : List Char) : Nat → List Char → List Char
  | 0, cs => cs
  | n + 1, cs =>
    match Text.dropLead? lead cs with
    | none => cs
    | some rest => dropAll lead n rest

/-- An address without its schemes and the pairs of slashes after them. -/
def withoutScheme (cs : List Char) : List Char :=
  dropAll ['/', '/'] cs.length (dropAll "sqlite:".toList cs.length cs)

/-- What follows the host in the address of a file; the host can only be this one. -/
def afterHost? : List Char → Option (List Char)
  | '/' :: '/' :: rest =>
    if ["", "localhost"].contains (String.ofList (rest.takeWhile (· ≠ '/'))) then
      some (rest.dropWhile (· ≠ '/'))
    else none
  | cs => some cs

/-- A part of the address of a file without its percent signs, up to a zero byte. -/
def plainPart (part : List Char) : String :=
  let s := String.ofList part
  let bytes := (Text.Percent.decode s.toUTF8.toList).takeWhile (· ≠ 0)
  (String.fromUTF8? ⟨bytes.toArray⟩).getD s

def parameter (cs : List Char) : String × String :=
  (plainPart (cs.takeWhile (· ≠ '=')), plainPart ((cs.dropWhile (· ≠ '=')).drop 1))

/-- The parameters in the address of a file.  One without a name says nothing. -/
def parameters (cs : List Char) : List (String × String) :=
  (((String.ofList cs).splitOn "&").map fun s ↦ parameter s.toList).filter (·.1 ≠ "")

/-- The parameters that take only some words.  Other parameters say nothing. -/
def chosenWords : List (String × List String) :=
  [("mode", ["ro", "rw", "rwc", "memory"]), ("cache", ["shared", "private"]),
    ("vfs", ["unix", "unix-dotfile", "unix-excl", "unix-none"])]

/-- Whether a parameter is set to a word that it does not take. -/
def isMisused (p : String × String) : Bool :=
  chosenWords.any fun w ↦ w.1 = p.1 && !w.2.contains p.2

/-- The place that a name and parameters say.  Tables without a file are of use only if they are
shared by all who use them. -/
def ofParts? (name : String) (ps : List (String × String)) : Option Address :=
  if ps.any isMisused then none
  else if name = nowhereWord || ps.contains ("mode", "memory") then
    if ps.contains ("cache", "shared") then some nowhere else none
  else if name = "" then none
  else if ps.contains ("mode", "ro") || ps.contains ("mode", "rw") then some (found name)
  else some (file name)

/-- The place that a name says, which may be the address of a file. -/
def ofName? (name : String) : Option Address :=
  match Text.dropLead? "file:".toList name.toList with
  | none => ofParts? name []
  | some address => do
    let cs := (← afterHost? address).takeWhile (· ≠ '#')
    ofParts? (plainPart (cs.takeWhile (· ≠ '?'))) (parameters ((cs.dropWhile (· ≠ '?')).drop 1))

def ofText? (s : String) : Option Address :=
  let cs := withoutScheme s.toList
  if cs.contains '?' then none
  else if String.ofList cs = nowhereWord then some nowhere
  else do
    let name ← Text.Percent.decodeText? (String.ofList cs)
    if name.toList.contains '\x00' then none else ofName? name

end Address

end Cascade.Store
