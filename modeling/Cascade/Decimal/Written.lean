import Cascade.Decimal.Shortest
import Cascade.Text.Digits

/-!
# Written binary numbers

Three ways to write a number: with a fixed number of places, with the fewest digits in positional
form, and as a JSON number, which goes over to a power of ten outside 10^-5 to 10^16 and always
shows that it need not be whole.
-/

namespace Cascade.Decimal

open Cascade.Text

/-- A magnitude with a fixed number of places, a tie going to the even last digit. -/
def writeFixed (places : Nat) (v : Magnitude) : List Char :=
  let (n, d) := v.ratio
  let units := roundDiv (n * Nat.pow 10 places) d
  let fraction := padNat places (units % Nat.pow 10 places)
  writeNat (units / Nat.pow 10 places) ++ if places = 0 then [] else '.' :: fraction

/-- Digits in positional form: zeros up to the point where the power of ten is positive, and a
point where it is negative. -/
def writePositional (d : Digits) : List Char :=
  let cs := writeNat d.digits
  if 0 ≤ d.exponent then cs ++ List.replicate d.exponent.toNat '0'
  else
    let places := (-d.exponent).toNat
    if places < cs.length then cs.take (cs.length - places) ++ '.' :: cs.drop (cs.length - places)
    else '0' :: '.' :: List.replicate (places - cs.length) '0' ++ cs

/-- The digits with a point after the first and a power of ten. -/
def writeScientific (d : Digits) : List Char :=
  let cs := writeNat d.digits
  let power := d.exponent + cs.length - 1
  cs.take 1 ++ (if cs.length = 1 then [] else '.' :: cs.drop 1) ++
    'e' :: (if power < 0 then ['-'] else []) ++ writeNat power.natAbs

def writeJson (v : Magnitude) : List Char :=
  let d := shortest v
  let point : Int := (writeNat d.digits).length + d.exponent
  if d.digits = 0 then ['0', '.', '0']
  else if 0 ≤ d.exponent ∧ point ≤ 16 then writePositional d ++ ['.', '0']
  else if -5 < point ∧ point ≤ 16 then writePositional d
  else writeScientific d

def Binary64.toFixed (places : Nat) : Binary64 → String
  | finite negative v => (if negative then "-" else "") ++ String.ofList (writeFixed places v)
  | infinite negative => if negative then "-inf" else "inf"
  | nan => "NaN"

/-- A number in positional form with the fewest digits. -/
def Binary64.toText : Binary64 → String
  | finite negative v =>
    (if negative then "-" else "") ++ String.ofList (writePositional (shortest v))
  | infinite negative => if negative then "-inf" else "inf"
  | nan => "NaN"

/-- A number as a JSON number; JSON has none for what is not finite. -/
def Binary64.toJson : Binary64 → String
  | finite negative v => (if negative then "-" else "") ++ String.ofList (writeJson v)
  | infinite _ => "null"
  | nan => "null"

end Cascade.Decimal
