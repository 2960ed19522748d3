import Cascade.Settings.Document
import Cascade.Text.Numeral
import Cascade.Yaml.Node

/-!
# Settings in a YAML document

Scalars are not converted: a number and a truth value must be written as such and without quotes.
Any scalar is a text, also one that could be something else.  A list, a record and a table may be
left out after their key, but a written null is none of them.
-/

namespace Cascade.Settings

open Yaml

def nullWords : List String := ["null", "Null", "NULL", "~"]

def truthWord? (s : String) : Option Bool :=
  if s ∈ ["true", "True", "TRUE"] then some true
  else if s ∈ ["false", "False", "FALSE"] then some false
  else none

/-- A number that is written with zeros before it is none. -/
def padded : List Char → Bool
  | '0' :: rest => !rest.isEmpty && rest.all Text.isDigit
  | _ => false

/-- A whole number without a sign, after a plus or alone, to the base 10 or the one that it
names. -/
def readWhole (cs : List Char) : Option Nat :=
  let cs := Text.dropPlus cs
  match Text.splitBase cs with
  | (10, _) => if padded cs then none else Text.readBase 10 cs
  | (base, digits) => Text.readBase base digits

def keyText? : Node → Option String
  | .scalar text _ => some text
  | _ => none

/-- The entries of a mapping under their keys. -/
def keyed? : Node → Option (List (String × Node))
  | .map entries => entries.mapM fun e ↦ (keyText? e.1).map fun k ↦ (k, e.2)
  | d => if d.isAbsent then some [] else none

instance : Document Node where
  text?
    | .scalar text _ => some text
    | _ => none
  optText?
    | .scalar text plain =>
      if plain && (text.isEmpty || nullWords.contains text) then some none else some (some text)
    | _ => none
  nat? greatest
    | .scalar text true =>
      (readWhole text.toList).bind fun n ↦ if n ≤ greatest then some n else none
    | _ => none
  bool?
    | .scalar text true => truthWord? text
    | _ => none
  items?
    | .seq items => some items
    | d => if d.isAbsent then some [] else none
  record? names d := do
    let known := (← keyed? d).filter fun e ↦ names.contains e.1
    if (known.map (·.1)).Nodup then some known else none
  table? := keyed?

/-- The settings of a YAML document; a text without a document in it says nothing. -/
def ofYaml? (text : String) : Option Settings :=
  (Edition.v11.node? text).bind fun d ↦ ofDocument? (d.getD .absent)

end Cascade.Settings
