import Cascade.Incident.Basic
import Cascade.State.Propagation

/-!
# Which incidents open and end

A component that becomes critical while nothing that it needs is critical opens an incident, unless
it already has one.  An active incident ends when its root is not critical any more.  Components
are looked at in the order of the graph.
-/

namespace Cascade.Incident

/-- Whether a component opens an incident between two sets of states. -/
def opens (g : Graph) (previous current : StateMap) (active : ActiveIncidents) (id : ComponentId) :
    Bool :=
  previous.stateOf id ≠ .critical && current.stateOf id = .critical && !active.contains id &&
    State.isRoot g current id

def ended? (current : StateMap) (active : ActiveIncidents) (id : ComponentId) : Option Incident :=
  if current.stateOf id = .critical then none else active.get? id

/-- The incidents that open and end between two sets of states; `fresh` gives the id of the
incident that a component opens. -/
def detect (fresh : ComponentId → IncidentId) (g : Graph) (previous current : StateMap)
    (active : ActiveIncidents) (now : Time.Instant) : Transition where
  opened := (g.order.filter (opens g previous current active)).map fun id ↦ .begin (fresh id) id now
  resolved := (g.order.filterMap (ended? current active)).map (·.resolve now)

end Cascade.Incident
