import Cascade.Text.Blank
import Cascade.Text.Word
import Cascade.Time.Span

/-!
# Written durations

A duration is a number and a unit, as in `500ms`, `30s`, `5m` or `1h`.  The number may carry a
plus, the unit may be in either case, and blanks around the whole are dropped.  Neither the number
nor the milliseconds that it comes to may exceed an unsigned 64-bit word.

The text is read from its end: the first unit that it ends in is taken off, and what is left must be
a number.
-/

namespace Cascade.Settings

open Cascade.Text

inductive TimeUnit where
  | millisecond
  | second
  | minute
  | hour
deriving DecidableEq, Repr

namespace TimeUnit

def millis : TimeUnit → Nat
  | millisecond => 1
  | second => 1000
  | minute => 60000
  | hour => 3600000

def letters : TimeUnit → List Char
  | millisecond => ['m', 's']
  | second => ['s']
  | minute => ['m']
  | hour => ['h']

/-- The units in the order in which a text is tried with them: milliseconds also end in the letter
of seconds. -/
def tried : List TimeUnit := [millisecond, second, minute, hour]

end TimeUnit

/-- What stands before an ending. -/
def stripSuffix? (ending cs : List Char) : Option (List Char) :=
  if ending.isSuffixOf cs then some (cs.take (cs.length - ending.length)) else none

/-- The first unit that a text ends in, behind what stands before it.  No other unit is tried after
that. -/
def splitUnit? (cs : List Char) : Option (List Char × TimeUnit) :=
  TimeUnit.tried.findSome? fun u ↦ (stripSuffix? u.letters cs).map (·, u)

/-- The milliseconds of a duration written in small letters without blanks around it. -/
def parseMillis (cs : List Char) : Option Nat := do
  let (number, unit) ← splitUnit? cs
  let n ← readWord number
  word? (n * unit.millis)

def durationMillis? (raw : String) : Option Nat :=
  parseMillis ((trimChars raw.toList).map Char.toLower)

end Cascade.Settings
