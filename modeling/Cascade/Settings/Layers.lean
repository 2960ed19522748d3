import Cascade.Decimal.Read
import Cascade.Decimal.Written
import Cascade.Path
import Cascade.Settings.Document
import Cascade.Text.LetterCase
import Cascade.Text.Numeral
import Cascade.Yaml.Node

/-!
# Settings in layers

Settings come from files and from variables of the environment, one layer over the other.  Tables
are merged, and everything else is replaced.  Keys are made small on the way.  A value is taken for
what is wanted wherever it can be: a text for the number or truth value that it writes, a number or
truth value for its text, and one of both for the other.
-/

namespace Cascade.Settings.Layers

open Yaml Decimal

/-- A value of a layer. -/
inductive Value where
  | null
  | bool (b : Bool)
  | int (n : Int)
  | float (x : Binary64)
  | text (s : String)
  | list (items : List Value)
  | table (entries : List (String × Value))
deriving Inhabited

namespace Value

/-! ### Merging -/

def child? (key : String) : Value → Option Value
  | table entries => entries.lookup key
  | _ => none

/-- The table with a value set under a key.  What is no table counts as an empty one. -/
def setChild (root : Value) (key : String) (v : Value) : Value :=
  match root with
  | table entries => table ((key, v) :: entries.filter fun e ↦ e.1 ≠ key)
  | _ => table [(key, v)]

mutual

/-- Puts a value under a key over what is there.  A table is merged into the table there. -/
def put (key : String) : Value → Value → Value
  | table entries, root =>
    let key := Text.small key
    root.setChild key (putAll entries ((root.child? key).getD (table [])))
  | v, root => root.setChild (Text.small key) v

def putAll : List (String × Value) → Value → Value
  | [], root => root
  | (key, v) :: rest, root => putAll rest (put key v root)

end

/-- The items of a list.  What is no list counts as an empty one. -/
def items : Value → List Value
  | list items => items
  | _ => []

/-- The number of items up to which a list is filled. -/
def longestList : Nat := 1048576

/-- The list with an item set.  Nulls fill the gap before an item beyond its end; an item that is
much too far out is left out. -/
def setItem (root : Value) (n : Nat) (v : Value) : Value :=
  if longestList ≤ n then list root.items
  else list ((root.items ++ List.replicate (n + 1 - root.items.length) null).set n v)

/-- A step of a path into a value. -/
inductive Step where
  | key (name : String)
  /-- To an item of a list; below zero it is counted from the end. -/
  | item (n : Int)
deriving DecidableEq, Repr

def placeOf (length : Nat) (n : Int) : Nat := (if n < 0 then n + length else n).toNat

/-- Puts a value at the end of a path.  Tables and lists are made on the way, and only at a key is a
table merged into what is there. -/
def putAt : List Step → Value → Value → Value
  | [], v, _ => v
  | [.key name], v, root => put name v root
  | .key name :: path, v, root =>
    let key := Text.small name
    root.setChild key (putAt path v ((root.child? key).getD null))
  | .item n :: path, v, root =>
    let n := placeOf root.items.length n
    root.setItem n (putAt path v (root.items[n]?.getD null))

/-! ### Conversions -/

def yesWords : List String := ["true", "on", "yes"]

def noWords : List String := ["false", "off", "no"]

def text? : Value → Option String
  | text s => some s
  | bool b => some (if b then "true" else "false")
  | int n => some (toString n)
  | float x => some x.toText
  | _ => none

/-- A value as a number of an unsigned 64-bit word. -/
def word? : Value → Option Nat
  | text s =>
    let word := Text.small s
    if word ∈ yesWords then some 1
    else if word ∈ noWords then some 0
    else Text.readNumber (Text.dropPlus s.toList)
  | bool b => some b.toNat
  | int n => if 0 ≤ n then some n.toNat else none
  | float x => some (x.toNatWithin Text.wordMax)
  | _ => none

def bool? : Value → Option Bool
  | text s =>
    let word := Text.small s
    if word ∈ "1" :: yesWords then some true
    else if word ∈ "0" :: noWords then some false
    else none
  | bool b => some b
  | int n => some (n ≠ 0)
  | float x => some !x.isZero
  | _ => none

/-- A value as a record: a table, or a list of the parts in their order. -/
def record? (names : List String) : Value → Option (List (String × Value))
  | table entries => some entries
  | list items => some (names.zip items)
  | _ => none

instance : Document Value where
  text? := text?
  optText?
    | null => some none
    | v => v.text?.map some
  nat? greatest v := v.word?.bind fun n ↦ if n ≤ min greatest Text.wordMax then some n else none
  bool? := bool?
  items?
    | list items => some items
    | _ => none
  record? := record?
  table?
    | table entries => some entries
    | _ => none

/-! ### Values of files -/

def inWord (n : Int) : Bool := -9223372036854775808 ≤ n && n ≤ 9223372036854775807

/-- A whole number to the base 10. -/
def int? (cs : List Char) : Option Int :=
  (Text.readSigned 10 cs).bind fun n ↦ if inWord n then some n else none

/-- A whole number to the base 16 or 8, after the two characters that name the base, or after a
plus. -/
def namedInt? : List Char → Option Int
  | '0' :: 'x' :: cs => (Text.readSigned 16 cs).bind fun n ↦ if inWord n then some n else none
  | '0' :: 'o' :: cs => (Text.readSigned 8 cs).bind fun n ↦ if inWord n then some n else none
  | '+' :: cs => int? cs
  | _ => none

/-- The words for what is not finite that begin with a point.  They count as numbers, but none of
them makes a value. -/
def pointWords : List String :=
  [".inf", ".Inf", ".INF", "+.inf", "+.Inf", "+.INF", "-.inf", "-.Inf", "-.INF", ".nan", ".NAN"]

/-- What a scalar stands for. -/
inductive Meaning where
  | null
  | bool (b : Bool)
  | int (n : Int)
  /-- A number that need not be whole, as it is written. -/
  | float (s : String)
  | text (s : String)
deriving DecidableEq

/-- What a scalar without quotes stands for. -/
def Meaning.ofPlain (s : String) : Meaning :=
  let cs := s.toList
  match namedInt? cs with
  | some n => int n
  | none =>
    if s ∈ ["", "~", "null"] then null
    else if s = "true" then bool true
    else if s = "false" then bool false
    else
      match int? cs with
      | some n => int n
      | none => if s ∈ pointWords || (Binary64.ofText? s).isSome then float s else text s

/-- The value of what a scalar stands for. -/
def Meaning.value? : Meaning → Option Value
  | null => some .null
  | bool b => some (.bool b)
  | int n => some (.int n)
  | float s => (Binary64.ofText? s).map .float
  | text s => some (.text s)

def Meaning.name? : Meaning → Option String
  | null => none
  | bool b => some (if b then "true" else "false")
  | int n => some (toString n)
  | float s => some s
  | text s => some s

/-- What a scalar stands for as a key.  Only a scalar is a key. -/
def key? : Node → Option Meaning
  | .scalar s true => some (.ofPlain s)
  | .scalar s false => some (.text s)
  | _ => none

/-- The entries of a table under the names of their keys.  Keys that differ may have one name, and
the last of them counts. -/
def named? : List (Meaning × Value) → Option (List (String × Value))
  | [] => some []
  | (key, v) :: rest => do
    let name ← key.name?
    let entries ← named? rest
    return if entries.any (·.1 = name) then entries else (name, v) :: entries

mutual

/-- The value of a node.  No key of a mapping is written twice. -/
def ofNode? : Node → Option Value
  | .scalar s true => (Meaning.ofPlain s).value?
  | .scalar s false => some (text s)
  | .seq items => (ofItems? items).map list
  | .map entries =>
    (ofEntries? entries).bind fun es ↦
      if (es.map (·.1)).Nodup then (named? es).map table else none

def ofItems? : List Node → Option (List Value)
  | [] => some []
  | x :: rest => (ofNode? x).bind fun v ↦ (ofItems? rest).map (v :: ·)

def ofEntries? : List (Node × Node) → Option (List (Meaning × Value))
  | [] => some []
  | (k, x) :: rest =>
    (key? k).bind fun key ↦ (ofNode? x).bind fun v ↦ (ofEntries? rest).map ((key, v) :: ·)

end

/-! ### Values of variables -/

def ofVariable (s : String) : Value :=
  let word := Text.small s
  if word = "true" then bool true
  else if word = "false" then bool false
  else
    match int? s.toList with
    | some n => int n
    | none =>
      match Binary64.ofText? s with
      | some x => float x
      | none => text s

end Value

/-! ### Layers -/

/-- Values with the keys that they are to be put under. -/
abbrev Layer := List (String × Value)

def isKeyChar (c : Char) : Bool := c.isAlphanum || c = '_' || c = '-' || c = ' '

/-- The number between two brackets, which fits a word; blanks may stand around it. -/
def readItem (cs : List Char) : Option Int :=
  let blank (c : Char) : Bool := c = ' ' || c = '\t'
  let n := match ((cs.dropWhile blank).reverse.dropWhile blank).reverse with
    | '-' :: digits => (Text.readNumber digits).map fun n ↦ -Int.ofNat n
    | digits => (Text.readNumber digits).map Int.ofNat
  n.filter Value.inWord

/-- The steps of a path after its first key: points with keys behind them, and numbers between
brackets.  The first argument bounds the number of steps. -/
def readSteps : Nat → List Char → Option (List Value.Step)
  | _, [] => some []
  | n + 1, '.' :: cs =>
    let name := cs.takeWhile isKeyChar
    if name.isEmpty then none
    else (readSteps n (cs.dropWhile isKeyChar)).map (.key (String.ofList name) :: ·)
  | n + 1, '[' :: cs =>
    match cs.dropWhile (· ≠ ']') with
    | [] => none
    | _ :: rest => do
      let item ← readItem (cs.takeWhile (· ≠ ']'))
      return .item item :: (← readSteps n rest)
  | _, _ => none

/-- The steps of a path, which starts with a key.  What is no path is one key. -/
def readPath (s : String) : List Value.Step :=
  (readSteps (s.length + 1) ('.' :: s.toList)).getD [.key s]

/-- The values with a layer put over them. -/
def cover (root : Value) (layer : Layer) : Value :=
  layer.foldl (fun v e ↦ Value.putAt (readPath e.1) e.2 v) root

/-- The layer of a file.  A file without a document is an empty layer. -/
def ofFile? (content : String) : Option Layer := do
  match ← Edition.v12.node? content with
  | none => return []
  | some d =>
    match ← Value.ofNode? d with
    | .table entries => return entries
    | _ => none

/-- What the names of variables that hold settings begin with. -/
def variableLead : String := "dozor__"

def fileVariable : String := "DOZOR_CONFIG"

/-- The file of settings that is looked for without being named. -/
def standardFile : String := "dozor.yaml"

/-- The path of a variable that holds a setting: two underscores stand for a point. -/
def variablePath? (name : String) : Option String :=
  let name := Text.small name
  (Text.dropLead? variableLead.toList name.toList).map fun rest ↦
    ".".intercalate ((String.ofList rest).splitOn "__")

def ofVariables (environment : List (String × String)) : Layer :=
  environment.filterMap fun v ↦ (variablePath? v.1).map fun path ↦ (path, Value.ofVariable v.2)

/-- Where settings come from. -/
structure Surroundings where
  read? : String → Option String
  environment : List (String × String)

/-- Surroundings with nothing but some files under their paths. -/
def Surroundings.ofFiles (files : List (String × String)) (environment : List (String × String)) :
    Surroundings where
  environment
  read? s :=
    let isDirectory (p : Path) : Bool :=
      p.isBase || files.any fun f ↦ p.leadsTo (Path.ofText f.1)
    (Path.through? isDirectory s).bind fun p ↦
      (files.find? fun f ↦ Path.ofText f.1 = p).map (·.2)

/-- A written path with an ending behind its last name.  What leads nowhere or up has none. -/
def withEnding? (ending s : String) : Option String :=
  match (Path.written s).reverse.dropWhile Path.stays with
  | [] => none
  | last :: names =>
    if last = ".." then none else some ("/".intercalate ((last ++ ending) :: names).reverse)

/-- The paths under which a file is looked for whose ending may be left out. -/
def fullPaths (s : String) : List String :=
  s :: (withEnding? ".yaml" s).toList ++ (withEnding? ".yml" s).toList

/-- The content of a file whose ending may be left out. -/
def Surroundings.find? (s : Surroundings) (path : String) : Option String :=
  (fullPaths path).findSome? s.read?

def Surroundings.valueOf? (s : Surroundings) (name : String) : Option String :=
  (s.environment.reverse.find? fun v ↦ v.1 = name).map (·.2)

def Surroundings.required? (s : Surroundings) (name : String) : Option Layer :=
  (s.find? name).bind ofFile?

def Surroundings.optional? (s : Surroundings) (name : String) : Option Layer :=
  match s.find? name with
  | none => some []
  | some content => ofFile? content

/-- The layer of a file that must be there if it is named. -/
def Surroundings.named? (s : Surroundings) : Option String → Option Layer
  | none => some []
  | some name => s.required? name

/-- The files that are looked for: the standard one, the one that is given, and the one that a
variable names. -/
def Surroundings.wanted (s : Surroundings) (path : Option String) : List String :=
  (standardFile :: path.toList ++ (s.valueOf? fileVariable).toList).flatMap fullPaths

/-- The layers, the lowest first: the standard file, the file that is given, the one that a variable
names, and the variables themselves. -/
def Surroundings.layers? (s : Surroundings) (path : Option String) : Option (List Layer) := do
  return [← s.optional? standardFile, ← s.named? path, ← s.named? (s.valueOf? fileVariable),
    ofVariables s.environment]

def load? (s : Surroundings) (path : Option String) : Option Settings := do
  let layers ← s.layers? path
  ofDocument? (layers.foldl cover (.table []))

end Cascade.Settings.Layers
