import Cascade.Decimal.Binary64

/-!
# The fewest digits that read back

A magnitude is written with the fewest decimal digits that lie closer to it than to any other
magnitude, and of those with the nearest ones.  For each number of digits only the two neighbours
of the magnitude on that grid have to be looked at.
-/

namespace Cascade.Decimal

/-- A decimal number `digits * 10 ^ exponent`. -/
structure Digits where
  digits : Nat
  exponent : Int
deriving DecidableEq, Repr, Inhabited

/-- The order of `a * 10 ^ k` and `b * 2 ^ e`. -/
def compareScaled (a : Nat) (k : Int) (b : Nat) (e : Int) : Ordering :=
  compare (a * Nat.pow 10 k.toNat * Nat.pow 2 (-e).toNat)
    (b * Nat.pow 2 e.toNat * Nat.pow 10 (-k).toNat)

/-- Whether a decimal number reads back as a magnitude: it lies between the middles to the two
neighbours, which count if the mantissa is even. -/
def readsBack (v : Magnitude) (d : Nat) (k : Int) : Bool :=
  let below := if v.mantissa = Nat.pow 2 52 ∧ minExponent < v.exponent then 1 else 2
  let low := compareScaled d k (4 * v.mantissa - below) (v.exponent - 2)
  let high := compareScaled d k (4 * v.mantissa + 2) (v.exponent - 2)
  if v.mantissa % 2 = 0 then low ≠ .lt && high ≠ .gt else low = .gt && high = .lt

/-- The power of ten of the first digit of a magnitude that is not zero. -/
def leadingExponent (v : Magnitude) : Int :=
  let fives := v.mantissa * Nat.pow 2 v.exponent.toNat * Nat.pow 5 (-v.exponent).toNat
  ((Nat.repr fives).length : Int) - 1 - (-v.exponent).toNat

/-- The whole part of a magnitude in units of a power of ten. -/
def floorUnits (v : Magnitude) (k : Int) : Nat :=
  (v.mantissa * Nat.pow 2 v.exponent.toNat * Nat.pow 10 (-k).toNat) /
    (Nat.pow 2 (-v.exponent).toNat * Nat.pow 10 k.toNat)

/-- Of two neighbours `d` and `d + 1` on a grid that both read back, the nearer; the even one if
both are equally near. -/
def nearer (v : Magnitude) (d : Nat) (k : Int) : Nat :=
  match compareScaled (2 * d + 1) k (2 * v.mantissa) v.exponent with
  | .gt => d
  | .lt => d + 1
  | .eq => if d % 2 = 0 then d else d + 1

/-- The number with the given count of digits that reads back and is nearest. -/
def withCount? (v : Magnitude) (count : Nat) : Option Digits :=
  let k := leadingExponent v - count + 1
  let d := floorUnits v k
  match readsBack v d k, readsBack v (d + 1) k with
  | true, true => some ⟨nearer v d k, k⟩
  | true, false => some ⟨d, k⟩
  | false, true => some ⟨d + 1, k⟩
  | false, false => none

/-- A decimal number without zeros at the end of its digits; the first argument bounds their
number. -/
def stripZeros : Nat → Digits → Digits
  | 0, d => d
  | n + 1, d =>
    if d.digits ≠ 0 ∧ d.digits % 10 = 0 then stripZeros n ⟨d.digits / 10, d.exponent + 1⟩ else d

/-- The fewest digits that read back as a magnitude; seventeen are always enough. -/
def shortest (v : Magnitude) : Digits :=
  if v.mantissa = 0 then ⟨0, 0⟩
  else stripZeros 17 (((List.range 17).findSome? fun n ↦ withCount? v (n + 1)).getD ⟨0, 0⟩)

end Cascade.Decimal
