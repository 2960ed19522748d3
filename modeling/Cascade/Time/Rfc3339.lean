import Cascade.Text.Digits
import Cascade.Time.Instant

/-!
# Instants in RFC 3339

A date, a `T`, a `t` or a blank, a time of day with an optional fraction, and an offset: `Z` or
`+hh:mm`.  The minus of an offset may be a hyphen or the mathematical sign.  The second 60 is read
as a leap second in any minute.  Digits of the fraction beyond the ninth are dropped.
-/

namespace Cascade.Time.Rfc3339

open Cascade.Text

/-- What follows a given character. -/
def expect (c : Char) : List Char → Option (List Char)
  | [] => none
  | d :: rest => if d = c then some rest else none

def readDate (cs : List Char) : Option (Date × List Char) := do
  let (y, cs) ← takeDigits 4 cs
  let cs ← expect '-' cs
  let (m, cs) ← takeDigits 2 cs
  let cs ← expect '-' cs
  let (d, cs) ← takeDigits 2 cs
  return (⟨y, m, d⟩, cs)

/-- The nanoseconds of a row of digits after the point. -/
def fractionNanos (digits : List Char) : Nat :=
  let kept := digits.take 9
  value kept * Nat.pow 10 (9 - kept.length)

/-- Reads the part of a second; there is none without a point. -/
def readFraction : List Char → Option (Nat × List Char)
  | '.' :: cs =>
    let digits := cs.takeWhile isDigit
    if digits.isEmpty then none else some (fractionNanos digits, cs.dropWhile isDigit)
  | cs => some (0, cs)

/-- Reads an offset, in minutes east of UTC, at the end of a text. -/
def readOffset : List Char → Option Int
  | ['Z'] => some 0
  | ['z'] => some 0
  | sign :: cs => do
    let factor : Int ←
      if sign = '+' then some 1 else if sign = '-' ∨ sign = '\u2212' then some (-1) else none
    let (h, cs) ← takeDigits 2 cs
    let cs ← expect ':' cs
    let (m, cs) ← takeDigits 2 cs
    if cs.isEmpty ∧ m ≤ 59 ∧ h ≤ 23 then some (factor * (h * 60 + m : Nat)) else none
  | [] => none

def read (cs : List Char) : Option Instant := do
  let (date, cs) ← readDate cs
  let cs ← match cs with
    | c :: rest => if c = 'T' ∨ c = 't' ∨ c = ' ' then some rest else none
    | [] => none
  let (hour, cs) ← takeDigits 2 cs
  let cs ← expect ':' cs
  let (minute, cs) ← takeDigits 2 cs
  let cs ← expect ':' cs
  let (second, cs) ← takeDigits 2 cs
  let (fraction, cs) ← readFraction cs
  let offset ← readOffset cs
  if date.isValid ∧ hour ≤ 23 ∧ minute ≤ 59 ∧ second ≤ 60 then
    let ofDay : Nat := hour * 3600 + minute * 60 + min second 59
    let nanos := fraction + if second = 60 then 1000000000 else 0
    if h : nanos < 2000000000 then
      some ⟨date.toDays * 86400 + ofDay - offset * 60, nanos, h⟩
    else none
  else none

def ofText? (s : String) : Option Instant := read s.toList

end Cascade.Time.Rfc3339
