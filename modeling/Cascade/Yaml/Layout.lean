import Cascade.Yaml.Source
import Cascade.Yaml.Token

/-!
# The layout of a document

What the next token hangs on, and what either edition does with it.  A key is known only by the
colon after it, so its mark is put before what was read since.  Columns say which block collections
are open: one ends where something stands to the left of it.
-/

namespace Cascade.Yaml

/-- What may turn out to be a key. -/
structure Candidate where
  /-- The number of tokens before it. -/
  before : Nat
  start : Placed
  /-- Whether nothing but a key can stand there. -/
  required : Bool

def longestKey : Nat := 1024

/-- A column to whose left nothing more of something can stand. -/
structure Indent where
  column : Nat
  /-- Whether a block collection stands there; if not, only the rest of a value is expected. -/
  block : Bool
deriving DecidableEq, Repr

/-- The tokens read so far and what the next ones hang on. -/
structure Layout where
  /-- The tokens, the last first. -/
  tokens : List Token
  /-- The columns that count, the innermost first. -/
  indents : List Indent
  /-- What may turn out to be a key in the innermost flow collection. -/
  candidate : Option Candidate
  /-- The same for each context around that collection; there is none outside of flow context. -/
  outer : List (Option Candidate)
  keys : Bool

namespace Layout

def start : Layout := ⟨[], [], none, [], true⟩

def inFlow (l : Layout) : Bool := !l.outer.isEmpty

/-- The innermost column that counts, or the first one. -/
def column (l : Layout) : Nat := (l.indents.head?.map (·.column)).getD 0

/-- The least column of what belongs to the innermost collection. -/
def least (l : Layout) : Nat := (l.indents.head?.map (·.column + 1)).getD 0

def emit (t : Token) (l : Layout) : Layout := { l with tokens := t :: l.tokens }

/-- Adds a token before all but the first `n` tokens. -/
def emitAt (n : Nat) (t : Token) (l : Layout) : Layout :=
  let late := l.tokens.length - n
  { l with tokens := l.tokens.take late ++ t :: l.tokens.drop late }

def allowKeys (keys : Bool) (l : Layout) : Layout := { l with keys }

/-- Gives up what might have been a key, unless it had to be one. -/
def forget (l : Layout) : Option Layout :=
  match l.candidate with
  | none => some l
  | some c => if c.required then none else some { l with candidate := none }

def propose (p : Placed) (l : Layout) : Option Layout :=
  let required := !l.inFlow && l.indents.head? == some ⟨p.column, true⟩
  if l.keys then
    l.forget.map fun l ↦ { l with candidate := some ⟨l.tokens.length, p, required⟩ }
  else some l

/-- Closes the block collections whose columns do not pass a test. -/
def closeUnless (test : Nat → Bool) (l : Layout) : Layout :=
  if l.inFlow then l
  else
    let closed := l.indents.takeWhile fun i ↦ !test i.column
    { l with
      tokens := List.replicate (closed.countP (·.block)) .blockEnd ++ l.tokens
      indents := l.indents.drop closed.length }

/-- Closes the block collections that stand to the right of a column. -/
def closeAfter (column : Nat) (l : Layout) : Layout := l.closeUnless (· ≤ column)

def closeAll (l : Layout) : Layout := l.closeUnless fun _ ↦ false

/-- The innermost columns that count once a block collection may begin at a column: no mere rest of
a value is expected there any more. -/
def indentsAt (column : Nat) (l : Layout) : List Indent :=
  match l.indents with
  | [] => []
  | i :: outer => if i.column ≤ column && !i.block then outer else i :: outer

/-- Opens a block collection at a column, unless the innermost one stands there already.  Its token
goes before all but the first `n` tokens. -/
def openBlock (t : Token) (n column : Nat) (l : Layout) : Layout :=
  if l.inFlow then l
  else
    let indents := l.indentsAt column
    if indents.head?.all (·.column < column) then
      { l.emitAt n t with indents := ⟨column, true⟩ :: indents }
    else { l with indents }

/-- Opens a block collection here, where a key or an item may stand. -/
def openHere (t : Token) (p : Placed) (l : Layout) : Option Layout :=
  if l.inFlow then some l
  else if l.keys then some (l.openBlock t l.tokens.length p.column)
  else none

/-- An opening bracket or brace. -/
def enter (t : Token) (l : Layout) : Layout :=
  ({ l with candidate := none, outer := l.candidate :: l.outer }.allowKeys true).emit t

/-- The way out of a flow collection. -/
def leave (l : Layout) : Option Layout :=
  l.forget.map fun l ↦
    let l := match l.outer with
      | [] => l
      | candidate :: outer => { l with candidate, outer }
    l.allowKeys false

/-- A dash before an item. -/
def beginItem (p : Placed) (l : Layout) : Option Layout := do
  let l ← l.openHere .seqStart p
  let l ← l.forget
  return (l.allowKeys true).emit .item

/-- A question mark before a key. -/
def beginKey (p : Placed) (l : Layout) : Option Layout := do
  let l ← l.openHere .mapStart p
  let l ← l.forget
  return (l.allowKeys !l.inFlow).emit .key

/-- A mark at the start or the end of a document. -/
def markDocument (t : Token) (l : Layout) : Option Layout :=
  l.closeAll.forget.map fun l ↦ (l.allowKeys false).emit t

def finish (l : Layout) : Option (List Token) := l.closeAll.forget.map (·.tokens.reverse)

/-- A reader of the next token, which begins with the given character. -/
abbrev Reader := Layout → Placed → List Placed → Option (Layout × List Placed)

end Layout

/-- How the next character goes with a plain scalar. -/
inductive Continuation where
  | goesOn
  | ends
  | refused
deriving DecidableEq, Repr

end Cascade.Yaml
