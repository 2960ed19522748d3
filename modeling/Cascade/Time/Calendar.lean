/-!
# The civil calendar

Days are counted from 1970-01-01 in the proleptic Gregorian calendar, in which a year before the
year 1 is zero or negative.  The calendar ends at the first day of the year -262143 and the last
day of the year 262142; `dayInRange` says whether a day lies between them.
-/

namespace Cascade.Time

structure Date where
  /-- The year; the year before the year 1 is 0. -/
  year : Int
  month : Nat
  day : Nat
deriving DecidableEq, Repr

namespace Date

def isLeapYear (y : Int) : Bool := y % 4 == 0 && (y % 100 != 0 || y % 400 == 0)

def monthLengths (y : Int) : List Nat :=
  [31, if isLeapYear y then 29 else 28, 31, 30, 31, 30, 31, 31, 30, 31, 30, 31]

/-- The days between the first day of the year 1 and the first day of year `y`. -/
def daysBeforeYear (y : Int) : Int :=
  let p := y - 1
  365 * p + p / 4 - p / 100 + p / 400

/-- The days between the first day of the year 1 and 1970-01-01. -/
def epochDays : Int := 719162

def toDays (d : Date) : Int :=
  daysBeforeYear d.year - epochDays +
    (((monthLengths d.year).take (d.month - 1)).foldl (· + ·) 0 : Nat) + (d.day : Int) - 1

/-- Whether the month and the day of a date exist. -/
def isValid (d : Date) : Bool :=
  match d.month with
  | 0 => false
  | m + 1 =>
    match (monthLengths d.year)[m]? with
    | none => false
    | some length => 1 ≤ d.day && d.day ≤ length

/-- The year that the day `z` after the first day of the year 1 falls in.  The mean year gives a
guess that is at most one off. -/
def yearOf (z : Int) : Int :=
  let guess := 400 * z / 146097 + 1
  if z < daysBeforeYear guess then guess - 1
  else if daysBeforeYear (guess + 1) ≤ z then guess + 1
  else guess

/-- The month and the day of a day of the year counted from zero. -/
def monthAndDay : (month : Nat) → (lengths : List Nat) → (rest : Nat) → Nat × Nat
  | month, [], rest => (month, rest + 1)
  | month, l :: lengths, rest =>
    if rest < l then (month, rest + 1) else monthAndDay (month + 1) lengths (rest - l)

def ofDays (n : Int) : Date :=
  let z := n + epochDays
  let y := yearOf z
  let (m, d) := monthAndDay 1 (monthLengths y) (z - daysBeforeYear y).toNat
  ⟨y, m, d⟩

def firstDay : Int := toDays ⟨-262143, 1, 1⟩

def lastDay : Int := toDays ⟨262142, 12, 31⟩

end Date

def dayInRange (n : Int) : Bool := Date.firstDay ≤ n && n ≤ Date.lastDay

end Cascade.Time
