import Cascade.State.Basic
import Cascade.State.Threshold

/-!
# The state of a component by its own signals

Signals are counted in the closed window that ends now.  Enough critical ones make the component
critical, enough warnings degraded.  A component that was in trouble stays so while a warning or a
critical signal is fresh, and signals dated after now never count.
-/

namespace Cascade.State

open Time

/-- Whether an instant lies in the closed interval between two others. -/
def within (start now t : Instant) : Bool := t ≤ now && start ≤ t

def inWindow (signals : List Signal) (start now : Instant) : List Signal :=
  signals.filter fun s ↦ within start now s.occurredAt

def count (signals : List Signal) (severity : Severity) : Nat :=
  signals.countP fun s ↦ s.severity = severity

/-- Whether a signal tells of trouble after `start` and up to `now`. -/
def isFreshTrouble (start now : Instant) (s : Signal) : Bool :=
  s.severity ≠ .info && s.occurredAt ≤ now && start < s.occurredAt

/-- The state of a component by its own signals, from the state that it had.  There is no answer
where the calendar has no start of the window, or no start of the span of quiet when that span is
asked for. -/
def evaluate (signals : List Signal) (previous : ComponentState) (threshold : Threshold)
    (now : Instant) : Option ComponentState :=
  if signals.isEmpty then some .unknown
  else do
    let start ← now.back? threshold.window
    let counted := inWindow signals start now
    if counted.isEmpty then return .unknown
    if threshold.critical ≤ count counted .critical then return .critical
    if threshold.degraded ≤ count counted .warning then return .degraded
    if previous.isElevated then
      let quietStart ← now.back? threshold.recovery
      return if signals.any (isFreshTrouble quietStart now) then previous else .healthy
    return .healthy

end Cascade.State
