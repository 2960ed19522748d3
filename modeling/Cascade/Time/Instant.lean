import Cascade.Time.Calendar
import Cascade.Time.Span

/-!
# Instants

An instant is a count of whole seconds since 1970-01-01T00:00:00 UTC and the nanoseconds within
that second.  A leap second has no number of its own: it is the second before it with a billion or
more nanoseconds.  Instants are ordered by the second and then by the nanoseconds.

`Instant.back_le` says that going back never leads to a later instant, and `Instant.back?` fails
exactly where the calendar ends.
-/

namespace Cascade.Time

structure Instant where
  /-- Whole seconds since the epoch, rounded down. -/
  second : Int
  /-- Nanoseconds within the second; a billion or more in a leap second. -/
  nanos : Nat
  nanos_lt : nanos < 2000000000 := by omega
deriving DecidableEq, Repr

namespace Instant

instance : Inhabited Instant := ⟨⟨0, 0, by decide⟩⟩

def isLeap (t : Instant) : Bool := 1000000000 ≤ t.nanos

/-- Instants are compared by the second and then by the nanoseconds. -/
instance : LE Instant := ⟨fun a b ↦ a.second < b.second ∨ (a.second = b.second ∧ a.nanos ≤ b.nanos)⟩

/-- An instant is earlier if its second is, or its nanoseconds within the same second are. -/
instance : LT Instant := ⟨fun a b ↦ a.second < b.second ∨ (a.second = b.second ∧ a.nanos < b.nanos)⟩

theorem le_def {a b : Instant} :
    a ≤ b ↔ a.second < b.second ∨ (a.second = b.second ∧ a.nanos ≤ b.nanos) := Iff.rfl

theorem lt_def {a b : Instant} :
    a < b ↔ a.second < b.second ∨ (a.second = b.second ∧ a.nanos < b.nanos) := Iff.rfl

instance : DecidableLE Instant := fun _ _ ↦ decidable_of_iff _ le_def.symm

instance : DecidableLT Instant := fun _ _ ↦ decidable_of_iff _ lt_def.symm

protected theorem le_refl (a : Instant) : a ≤ a := le_def.2 (.inr ⟨rfl, Nat.le_refl _⟩)

protected theorem le_trans {a b c : Instant} (h : a ≤ b) (k : b ≤ c) : a ≤ c := by
  rw [le_def] at *; omega

protected theorem le_of_lt {a b : Instant} (h : a < b) : a ≤ b := by
  rw [le_def]; rw [lt_def] at h; omega

protected theorem lt_of_le_of_lt {a b c : Instant} (h : a ≤ b) (k : b < c) : a < c := by
  rw [lt_def] at *; rw [le_def] at h; omega

/-! ### Nanoseconds since the epoch -/

/-- The instant a number of nanoseconds after the epoch, never in a leap second. -/
def ofNanos (n : Int) : Instant :=
  ⟨n / 1000000000, (n % 1000000000).toNat, by omega⟩

def toNanos (t : Instant) : Int := t.second * 1000000000 + t.nanos

abbrev wordMin : Int := -9223372036854775808

abbrev wordMax : Int := 9223372036854775807

/-- The nanoseconds since the epoch, if a signed 64-bit word holds them. -/
def toWord? (t : Instant) : Option Int :=
  if wordMin ≤ t.toNanos ∧ t.toNanos ≤ wordMax then some t.toNanos else none

/-- Counting nanoseconds and going back to the instant changes nothing outside leap seconds. -/
theorem ofNanos_toNanos {t : Instant} (h : t.nanos < 1000000000) : ofNanos t.toNanos = t := by
  cases t
  simp only [ofNanos, toNanos, mk.injEq] at *
  omega

theorem toNanos_ofNanos (n : Int) : (ofNanos n).toNanos = n := by
  simp only [ofNanos, toNanos]; omega

/-! ### Going back -/

/-- The instant a span earlier.  Within a leap second less than a second is simply taken off; a
longer span first leaves the leap second for the second that follows it. -/
def back (t : Instant) (d : Span) : Instant :=
  if h : t.isLeap = true ∧ d.seconds = 0 then
    ⟨t.second, t.nanos - d.subsecond, by have := t.nanos_lt; omega⟩
  else
    let second := if t.isLeap then t.second + 1 else t.second
    let nanos := t.nanos % 1000000000
    if d.subsecond ≤ nanos then ⟨second - d.seconds, nanos - d.subsecond, by omega⟩
    else ⟨second - d.seconds - 1, nanos + 1000000000 - d.subsecond, by omega⟩

def dayNumber (t : Instant) : Int := t.second / 86400

/-- The instant a span earlier, if the calendar reaches back that far. -/
def back? (t : Instant) (d : Span) : Option Instant :=
  let r := t.back d
  if dayInRange r.dayNumber then some r else none

/-- Going back never leads to a later instant. -/
theorem back_le (t : Instant) (d : Span) : t.back d ≤ t := by
  have bound := t.nanos_lt
  rw [le_def, back]
  split
  · right; exact ⟨rfl, Nat.sub_le _ _⟩
  · rename_i h
    dsimp only
    by_cases l : t.isLeap = true
    · have big : 1000000000 ≤ t.nanos := by simpa [isLeap] using l
      have long : 1 ≤ d.seconds := Nat.one_le_iff_ne_zero.2 fun z ↦ h ⟨l, z⟩
      simp only [l, if_true]
      split <;> simp only <;> omega
    · have small : t.nanos < 1000000000 := by simpa [isLeap] using l
      simp only [l, Bool.false_eq_true, if_false]
      split <;> simp only <;> omega

/-! ### Differences -/

def secondOfDay (t : Instant) : Int := t.second % 86400

/-- The nanoseconds from one instant to another.  A leap second between two times of day counts as
a second of its own. -/
def nanosSince (later earlier : Instant) : Int :=
  let extra : Int :=
    if earlier.secondOfDay < later.secondOfDay ∧ earlier.isLeap then 1
    else if later.secondOfDay < earlier.secondOfDay ∧ later.isLeap then -1
    else 0
  (later.second - earlier.second + extra) * 1000000000 + (later.nanos - earlier.nanos)

/-- The whole seconds from one instant to another, none if the second comes first. -/
def secondsSince (later earlier : Instant) : Nat :=
  ((later.nanosSince earlier).tdiv 1000000000).toNat

end Instant

end Cascade.Time
