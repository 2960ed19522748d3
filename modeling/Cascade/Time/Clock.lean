import Cascade.Time.Instant

/-!
# A clock that is set by hand

The clock holds its instant as a signed 64-bit count of nanoseconds.  An instant that the count
cannot hold sets the clock to the greatest count, and moving the clock past the ends of the word
wraps around.
-/

namespace Cascade.Time

/-- A clock that moves only when it is told to. -/
structure Clock where
  /-- Nanoseconds since the epoch. -/
  nanos : Int
deriving DecidableEq, Repr, Inhabited

namespace Clock

def standingAt (t : Instant) : Clock := ⟨(t.toWord?).getD Instant.wordMax⟩

def now (c : Clock) : Instant := Instant.ofNanos c.nanos

/-- Moves the clock by a number of nanoseconds; a step that no word holds counts as the greatest
one. -/
def advance (c : Clock) (step : Int) : Clock :=
  let held := if Instant.wordMin ≤ step ∧ step ≤ Instant.wordMax then step else Instant.wordMax
  ⟨(c.nanos + held).bmod 18446744073709551616⟩

end Clock

end Cascade.Time
