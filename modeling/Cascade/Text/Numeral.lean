import Cascade.Text.Digits

/-!
# Numerals of other bases

Whole numbers to the base 2, 8, 10 or 16.
-/

namespace Cascade.Text

/-- The number of a digit in bases up to 16. -/
def baseDigit? (base : Nat) (c : Char) : Option Nat :=
  let n := c.toNat
  let d? :=
    if isDigit c then some (n - 48)
    else if 97 ≤ n ∧ n ≤ 102 then some (n - 87)
    else if 65 ≤ n ∧ n ≤ 70 then some (n - 55)
    else none
  d?.bind fun d ↦ if d < base then some d else none

/-- The number of one or more digits of a base and nothing else. -/
def readBase (base : Nat) (cs : List Char) : Option Nat :=
  if cs.isEmpty then none
  else (cs.mapM (baseDigit? base)).map fun ds ↦ ds.foldl (fun n d ↦ n * base + d) 0

/-- A whole number of a base with a sign or without. -/
def readSigned (base : Nat) : List Char → Option Int
  | '+' :: cs => (readBase base cs).map Int.ofNat
  | '-' :: cs => (readBase base cs).map fun n ↦ -Int.ofNat n
  | cs => (readBase base cs).map Int.ofNat

/-- The base that two leading characters name, and what follows them. -/
def splitBase : List Char → Nat × List Char
  | '0' :: 'x' :: cs => (16, cs)
  | '0' :: 'o' :: cs => (8, cs)
  | '0' :: 'b' :: cs => (2, cs)
  | cs => (10, cs)

end Cascade.Text
