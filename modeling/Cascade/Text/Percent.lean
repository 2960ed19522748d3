/-!
# Percent signs that stand for bytes

A percent sign with two hexadecimal digits after it stands for the byte of that number; any other
percent sign stands for itself.
-/

namespace Cascade.Text.Percent

def hexDigit? (b : UInt8) : Option UInt8 :=
  if 0x30 ≤ b && b ≤ 0x39 then some (b - 0x30)
  else if 0x41 ≤ b && b ≤ 0x46 then some (b - 0x37)
  else if 0x61 ≤ b && b ≤ 0x66 then some (b - 0x57)
  else none

/-- The byte that two hexadecimal digits write. -/
def hexByte? (a b : UInt8) : Option UInt8 := do return (← hexDigit? a) * 16 + (← hexDigit? b)

/-- The bytes of a text without its percent signs. -/
def decode : List UInt8 → List UInt8
  | 0x25 :: a :: b :: rest =>
    match hexByte? a b with
    | some c => c :: decode rest
    | none => 0x25 :: decode (a :: b :: rest)
  | b :: rest => b :: decode rest
  | [] => []

/-- A text without its percent signs, unless its bytes are no text any more. -/
def decodeText? (s : String) : Option String :=
  String.fromUTF8? ⟨(decode s.toUTF8.toList).toArray⟩

end Cascade.Text.Percent
