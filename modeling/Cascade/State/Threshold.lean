import Cascade.Time.Span

/-!
# Thresholds

How many signals within the window make a component degraded or critical, and how long it has to
be quiet before it counts as recovered.  Nothing in a threshold is zero, and both spans fit the
longest span of milliseconds that a signed 64-bit word counts.
-/

namespace Cascade

open Time

/-- The parts of a threshold. -/
inductive ThresholdField where
  | criticalCount
  | degradedCount
  | window
  | recoveryWindow
deriving DecidableEq, Repr

def ThresholdField.label : ThresholdField → String
  | criticalCount => "critical_threshold"
  | degradedCount => "degraded_threshold"
  | window => "window"
  | recoveryWindow => "recovery_window"

inductive ThresholdError where
  | notPositive (field : ThresholdField)
  | outOfRange (field : ThresholdField)
deriving DecidableEq, Repr

/-- What is said of numbers that make no threshold. -/
def ThresholdError.message : ThresholdError → String
  | notPositive field => s!"{field.label} must be > 0"
  | outOfRange field => s!"{field.label} is out of range"

/-- The longest span of a threshold: 2^63 - 1 milliseconds. -/
def longestWindow : Nat := 9223372036854775807 * 1000000

/-- When a component counts as degraded, critical and recovered. -/
structure Threshold where
  /-- As many critical signals within the window make a component critical. -/
  critical : Nat
  /-- As many warnings within the window make a component degraded. -/
  degraded : Nat
  window : Span
  /-- The span of quiet after which a component has recovered. -/
  recovery : Span
  critical_pos : 0 < critical
  degraded_pos : 0 < degraded
  window_pos : 0 < window.nanos
  recovery_pos : 0 < recovery.nanos
  window_le : window.nanos ≤ longestWindow
  recovery_le : recovery.nanos ≤ longestWindow
deriving DecidableEq, Repr

/-- The threshold of four numbers.  The parts are checked for zero in the order in which they are
given, and then the spans for their length. -/
def Threshold.make (critical degraded : Nat) (window recovery : Span) :
    Except ThresholdError Threshold :=
  if hc : critical = 0 then .error (.notPositive .criticalCount)
  else if hd : degraded = 0 then .error (.notPositive .degradedCount)
  else if hw : window.nanos = 0 then .error (.notPositive .window)
  else if hr : recovery.nanos = 0 then .error (.notPositive .recoveryWindow)
  else if lw : longestWindow < window.nanos then .error (.outOfRange .window)
  else if lr : longestWindow < recovery.nanos then .error (.outOfRange .recoveryWindow)
  else .ok ⟨critical, degraded, window, recovery, Nat.pos_of_ne_zero hc, Nat.pos_of_ne_zero hd,
    Nat.pos_of_ne_zero hw, Nat.pos_of_ne_zero hr, Nat.le_of_not_lt lw, Nat.le_of_not_lt lr⟩

end Cascade
