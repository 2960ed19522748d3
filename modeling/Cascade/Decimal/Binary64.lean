/-!
# Binary numbers of 64 bits

A finite binary number is a mantissa below 2^53 times a power of two.  It is obtained from a ratio
by rounding to the nearest one, a tie going to the even mantissa, and everything here is exact
arithmetic on natural numbers.
-/

namespace Cascade.Decimal

/-- A magnitude `mantissa * 2 ^ exponent`. -/
structure Magnitude where
  mantissa : Nat
  exponent : Int
deriving DecidableEq, Repr, Inhabited

inductive Binary64 where
  | finite (negative : Bool) (magnitude : Magnitude)
  /-- More than every finite number, or less. -/
  | infinite (negative : Bool)
  | nan
deriving DecidableEq, Repr, Inhabited

def minExponent : Int := -1074

/-- The greatest power of two of a finite number. -/
def maxExponent : Int := 971

/-- The quotient of two numbers rounded to the nearest, a tie to the even one. -/
def roundDiv (num den : Nat) : Nat :=
  let q := num / den
  let r := num % den
  if 2 * r < den then q
  else if den < 2 * r then q + 1
  else if q % 2 = 0 then q else q + 1

namespace Magnitude

def zero : Magnitude := ⟨0, minExponent⟩

/-- The ratio `num / den` in units of a power of two, as a ratio of two numbers. -/
def scaled (num den : Nat) (exponent : Int) : Nat × Nat :=
  (num * Nat.pow 2 (-exponent).toNat, den * Nat.pow 2 exponent.toNat)

/-- The power of two in whose units the ratio lies between 2^52 and 2^53, or the least one. -/
def exponentOf (num den : Nat) : Int :=
  let guess : Int := (Nat.log2 num : Int) - Nat.log2 den - 52
  let (n, d) := scaled num den guess
  let fitted :=
    if n / d < Nat.pow 2 52 then guess - 1
    else if Nat.pow 2 53 ≤ n / d then guess + 1
    else guess
  max fitted minExponent

/-- The nearest magnitude to a ratio, nothing if it is too great. -/
def ofRatio (num den : Nat) : Option Magnitude :=
  if num = 0 then some zero
  else
    let e := exponentOf num den
    let (n, d) := scaled num den e
    let m := roundDiv n d
    let (m, e) := if m = Nat.pow 2 53 then (Nat.pow 2 52, e + 1) else (m, e)
    if maxExponent < e then none else some ⟨m, e⟩

def ratio (v : Magnitude) : Nat × Nat :=
  (v.mantissa * Nat.pow 2 v.exponent.toNat, Nat.pow 2 (-v.exponent).toNat)

end Magnitude

namespace Binary64

/-- The nearest number to a ratio. -/
def ofRatio (negative : Bool) (num den : Nat) : Binary64 :=
  match Magnitude.ofRatio num den with
  | some v => finite negative v
  | none => infinite negative

/-- The nearest number to `digits * 10 ^ exponent`.  Powers of ten that no finite number comes near
are not worked out. -/
def ofDecimal (negative : Bool) (digits : Nat) (exponent : Int) : Binary64 :=
  let size : Int := (Nat.repr digits).length + exponent
  if digits = 0 ∨ size < -400 then finite negative .zero
  else if 400 < size then infinite negative
  else ofRatio negative (digits * Nat.pow 10 exponent.toNat) (Nat.pow 10 (-exponent).toNat)

end Binary64

end Cascade.Decimal
