/-!
# Decimal digits

Reading a fixed number of ASCII digits, and writing a number with a least width.

Digits are the ASCII ones; no other script counts.
-/

namespace Cascade.Text

def isDigit (c : Char) : Bool := 48 ≤ c.toNat && c.toNat ≤ 57

def digitValue (c : Char) : Nat := c.toNat - 48

/-- The number that a row of digits stands for, read after the number `acc`. -/
def valueFrom (acc : Nat) (cs : List Char) : Nat :=
  cs.foldl (fun n c ↦ n * 10 + digitValue c) acc

def value (cs : List Char) : Nat := valueFrom 0 cs

def readNumber (cs : List Char) : Option Nat :=
  if cs.isEmpty then none else if cs.all isDigit then some (value cs) else none

def dropPlus : List Char → List Char
  | '+' :: cs => cs
  | cs => cs

/-- The number of exactly `n` leading digits, and what follows them. -/
def takeDigits (n : Nat) (cs : List Char) : Option (Nat × List Char) :=
  let lead := cs.take n
  if lead.length = n ∧ lead.all isDigit then some (value lead, cs.drop n) else none

/-- The digits of a number, most significant first. -/
def writeNat (n : Nat) : List Char := (Nat.repr n).toList

/-- The digits of a number with zeros before them up to a width. -/
def padNat (width n : Nat) : List Char :=
  let digits := writeNat n
  List.replicate (width - digits.length) '0' ++ digits

end Cascade.Text
