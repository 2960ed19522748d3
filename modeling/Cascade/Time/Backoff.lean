/-!
# Repeated attempts at start-up

A service that the program needs may come up later than the program.  Reaching it is tried again
after pauses that double up to a limit, and given up after a fixed number of retries.
-/

namespace Cascade.Time

/-- The pauses before the attempts after the first to reach a service at start-up, in milliseconds:
they double from a tenth of a second and stay below five seconds. -/
def retryDelays (maxRetries : Nat) : List Nat :=
  (List.range maxRetries).map fun i ↦ min (100 * Nat.pow 2 i) 5000

/-- What became of an attempt to reach a service that is retried. -/
structure Attempts where
  /-- The times of the attempts, in milliseconds from the first. -/
  times : List Nat
  connected : Bool
deriving DecidableEq, Repr

/-- Attempts one after another from a time on, the first `failures` of which fail, with the given
pauses between them. -/
def attemptsFrom (time : Nat) : (delays : List Nat) → (failures : Nat) → Attempts
  | _, 0 => ⟨[time], true⟩
  | [], _ + 1 => ⟨[time], false⟩
  | d :: delays, failures + 1 =>
    let later := attemptsFrom (time + d) delays failures
    ⟨time :: later.times, later.connected⟩

/-- The attempts at start-up: thirty retries at most. -/
def startupAttempts (failures : Nat) : Attempts := attemptsFrom 0 (retryDelays 30) failures

end Cascade.Time
