import Cascade.IdMap
import Cascade.Signal.Basic

/-!
# Component states

The health of a component: unknown, healthy, degraded, critical, or impacted by a critical
component that it depends on.  A state has a stable number and a name.
-/

namespace Cascade

/-- The health of a component. -/
inductive ComponentState where
  /-- No signal lies within the window. -/
  | unknown
  | healthy
  | degraded
  | critical
  /-- No trouble of its own, but something that it depends on is critical. -/
  | impacted
deriving DecidableEq, Repr, Inhabited

namespace ComponentState

def code : ComponentState → Int
  | unknown => 0
  | healthy => 1
  | degraded => 2
  | critical => 3
  | impacted => 4

def ofCode? (n : Int) : Option ComponentState :=
  if n = 0 then some unknown
  else if n = 1 then some healthy
  else if n = 2 then some degraded
  else if n = 3 then some critical
  else if n = 4 then some impacted
  else none

def name : ComponentState → String
  | unknown => "UNKNOWN"
  | healthy => "HEALTHY"
  | degraded => "DEGRADED"
  | critical => "CRITICAL"
  | impacted => "IMPACTED"

instance : ToString ComponentState := ⟨name⟩

/-- Whether a component has trouble of its own. -/
def isElevated : ComponentState → Bool
  | critical => true
  | degraded => true
  | _ => false

@[simp] theorem ofCode?_code (s : ComponentState) : ofCode? s.code = some s := by cases s <;> rfl

theorem isElevated_iff {s : ComponentState} :
    s.isElevated = true ↔ s = critical ∨ s = degraded := by
  cases s <;> simp [isElevated]

end ComponentState

abbrev StateMap := IdMap ComponentState

namespace StateMap

/-- The state of a component, unknown where the map has none. -/
def stateOf (m : StateMap) (id : ComponentId) : ComponentState := (m.get? id).getD .unknown

def isCritical (m : StateMap) (id : ComponentId) : Bool := m.get? id == some .critical

end StateMap

end Cascade
