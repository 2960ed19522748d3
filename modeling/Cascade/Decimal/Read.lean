import Cascade.Decimal.Binary64
import Cascade.Text.Blank
import Cascade.Text.Digits

/-!
# Reading binary numbers

A number is written with or without a sign, a point and a power of ten, with at least one digit
before the power, or it is one of the words for what is not finite.
-/

namespace Cascade.Decimal

open Text

/-- A power of ten after its letter: digits with or without a sign. -/
def readPower : List Char → Option Int
  | '+' :: cs => (readNumber cs).map Int.ofNat
  | '-' :: cs => (readNumber cs).map fun n ↦ -Int.ofNat n
  | cs => (readNumber cs).map Int.ofNat

/-- What follows the digits of a number: nothing, or a power of ten. -/
def readExponent : List Char → Option Int
  | [] => some 0
  | c :: cs => if c = 'e' ∨ c = 'E' then readPower cs else none

def readDigits (negative : Bool) (cs : List Char) : Option Binary64 :=
  let whole := cs.takeWhile isDigit
  let rest := cs.dropWhile isDigit
  let (places, rest) := match rest with
    | '.' :: rest => (rest.takeWhile isDigit, rest.dropWhile isDigit)
    | rest => ([], rest)
  if whole.isEmpty && places.isEmpty then none
  else (readExponent rest).map fun power ↦
    .ofDecimal negative (value (whole ++ places)) (power - places.length)

def readUnsigned (negative : Bool) (cs : List Char) : Option Binary64 :=
  let word := String.ofList (cs.map Char.toLower)
  if word = "inf" ∨ word = "infinity" then some (.infinite negative)
  else if word = "nan" then some .nan
  else readDigits negative cs

def Binary64.ofText? (s : String) : Option Binary64 :=
  match s.toList with
  | '-' :: cs => readUnsigned true cs
  | '+' :: cs => readUnsigned false cs
  | cs => readUnsigned false cs

/-- The nearest whole number, a half going away from zero, between zero and a greatest one.  No
number counts as zero. -/
def Binary64.toNatWithin (greatest : Nat) : Binary64 → Nat
  | finite negative v =>
    let (n, d) := v.ratio
    if negative then 0 else min greatest ((2 * n + d) / (2 * d))
  | infinite negative => if negative then 0 else greatest
  | nan => 0

def Binary64.isZero : Binary64 → Bool
  | finite _ v => v.mantissa = 0
  | infinite _ => false
  | nan => false

end Cascade.Decimal
