import Cascade.Text.Digits

/-!
# Unsigned words of 64 bits

A word that would be too great is refused, and never cut.  A written word is one or more ASCII
digits, behind a plus or not; a plus alone is none.
-/

namespace Cascade.Text

/-- The greatest number of an unsigned 64-bit word. -/
abbrev wordMax : Nat := 18446744073709551615

def word? (n : Nat) : Option Nat := if n ≤ wordMax then some n else none

/-- Reads digits one by one behind a number.  The number is shifted before the digit is added, and
either may be too much. -/
def readWordFrom : Nat → List Char → Option Nat
  | n, [] => some n
  | n, c :: cs =>
    if isDigit c then do
      let shifted ← word? (n * 10)
      let next ← word? (shifted + digitValue c)
      readWordFrom next cs
    else none

def readWord : List Char → Option Nat
  | [] => none
  | '+' :: cs => if cs.isEmpty then none else readWordFrom 0 cs
  | cs => readWordFrom 0 cs

end Cascade.Text
