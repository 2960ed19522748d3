/-!
# JSON values

A value keeps what was written: the members of an object in their order with repetitions, and a
number as its text.  Strings and keys are byte strings, because a document may hold text that is no
Unicode; `Value.text?` gives the text of a string that is.
-/

namespace Cascade.Json

inductive Value where
  | null
  | bool (b : Bool)
  /-- A number as it is written. -/
  | num (text : String)
  /-- A string as its bytes, escapes resolved. -/
  | str (bytes : List UInt8)
  | arr (items : List Value)
  | obj (members : List (List UInt8 × Value))
deriving Repr, Inhabited

namespace Value

def bytesOf (s : String) : List UInt8 := s.toUTF8.toList

def textOf? (bytes : List UInt8) : Option String := String.fromUTF8? ⟨bytes.toArray⟩

def text (s : String) : Value := .str (bytesOf s)

def nat (n : Nat) : Value := .num (Nat.repr n)

def int (n : Int) : Value := .num (if n < 0 then "-" ++ Nat.repr n.natAbs else Nat.repr n.natAbs)

def object (members : List (String × Value)) : Value :=
  .obj (members.map fun m ↦ (bytesOf m.1, m.2))

def optText : Option String → Value
  | none => .null
  | some s => text s

def text? : Value → Option String
  | str bytes => textOf? bytes
  | _ => none

def member? : Value → String → Option Value
  | obj members, key => (members.reverse.find? fun m ↦ m.1 = bytesOf key).map (·.2)
  | _, _ => none

end Value

end Cascade.Json
