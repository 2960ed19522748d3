import Cascade.Decimal.Read
import Cascade.Decimal.Written
import Cascade.Json.Value

/-!
# Rounded JSON numbers

JSON sets no limit to the digits of a number.  A rounded value keeps the whole numbers that a 64-bit
word holds, with or without a sign, and has the nearest binary number in the place of every other.
-/

namespace Cascade.Json

/-- Whether a whole number fits a 64-bit word, with or without a sign. -/
def fitsWord (n : Int) : Bool := -9223372036854775808 ≤ n && n < 18446744073709551616

/-- The text of a rounded number.  A zero with a sign is no whole number, because none has one. -/
def roundNumber (text : String) : String :=
  if text ≠ "-0" ∧ text.toInt?.any fitsWord then text
  else (Decimal.Binary64.ofText? text).elim text Decimal.Binary64.toJson

mutual

def Value.rounded : Value → Value
  | .num text => .num (roundNumber text)
  | .arr items => .arr (roundedItems items)
  | .obj members => .obj (roundedMembers members)
  | v => v

def roundedItems : List Value → List Value
  | [] => []
  | v :: rest => v.rounded :: roundedItems rest

def roundedMembers : List (List UInt8 × Value) → List (List UInt8 × Value)
  | [] => []
  | (key, v) :: rest => (key, v.rounded) :: roundedMembers rest

end

end Cascade.Json
