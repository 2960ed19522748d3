import Cascade.Text.Digits
import Cascade.Time.Instant

/-!
# Written instants and durations

An instant is written `2026-02-22 12:00:00 UTC`, with the second 60 in a leap second.  Years of
four digits stand bare; any other year carries its sign and has at least four digits.  The long
form adds the part of the second, in three, six or nine digits.  Durations are written in minutes
and seconds.
-/

namespace Cascade.Time

open Cascade.Text

/-- A year in four digits, or with its sign outside 0 to 9999. -/
def writeYear (y : Int) : List Char :=
  if 0 ≤ y ∧ y ≤ 9999 then padNat 4 y.toNat
  else (if y < 0 then '-' else '+') :: padNat 4 y.natAbs

def Date.write (d : Date) : List Char :=
  writeYear d.year ++ '-' :: padNat 2 d.month ++ '-' :: padNat 2 d.day

namespace Instant

/-- The time of day to the second, with colons between its parts. -/
def writeTimeOfDay (t : Instant) : List Char :=
  let s := t.secondOfDay.toNat
  padNat 2 (s / 3600) ++ ':' :: padNat 2 (s / 60 % 60) ++
    ':' :: padNat 2 (s % 60 + if t.isLeap then 1 else 0)

/-- The part of a second in as few of three, six or nine digits as hold it, or nothing. -/
def writeFraction (t : Instant) : List Char :=
  let n := t.nanos % 1000000000
  if n = 0 then []
  else if n % 1000000 = 0 then '.' :: padNat 3 (n / 1000000)
  else if n % 1000 = 0 then '.' :: padNat 6 (n / 1000)
  else '.' :: padNat 9 n

def toText (t : Instant) : String :=
  String.ofList ((Date.ofDays t.dayNumber).write ++ ' ' :: t.writeTimeOfDay) ++ " UTC"

def toLongText (t : Instant) : String :=
  String.ofList ((Date.ofDays t.dayNumber).write ++ ' ' :: t.writeTimeOfDay ++ t.writeFraction) ++
    " UTC"

end Instant

/-- A number of seconds in minutes and seconds; minutes are left out while there are none. -/
def writeDuration (seconds : Nat) : String :=
  if seconds / 60 = 0 then s!"{seconds}s" else s!"{seconds / 60}m {seconds % 60}s"

end Cascade.Time
