import Cascade.Graph.Topology
import Cascade.State.Basic

/-!
# What critical components do to those that need them

A component without trouble of its own is impacted while something that it needs, directly or not,
is critical.  Impact is no observation of its own: once nothing critical is left above it, an
impacted component is unknown until its own signals are looked at again.
-/

namespace Cascade.State

def hasCriticalUpstream (g : Graph) (states : StateMap) (id : ComponentId) : Bool :=
  (g.allUpstream id).any states.isCritical

/-- A state that is no longer explained by a critical component above. -/
def withoutImpact : ComponentState → ComponentState
  | .impacted => .unknown
  | s => s

def effectiveState (g : Graph) (states : StateMap) (id : ComponentId) : ComponentState :=
  let own := states.stateOf id
  if own.isElevated then own
  else if hasCriticalUpstream g states id then .impacted
  else withoutImpact own

/-- The states of all components of the graph; entries for others are kept as they are. -/
def propagate (g : Graph) (states : StateMap) : StateMap :=
  g.order.foldl (fun m id ↦ m.insert id (effectiveState g states id)) states

/-- Whether nothing that a component needs is critical. -/
def isRoot (g : Graph) (states : StateMap) (id : ComponentId) : Bool :=
  !hasCriticalUpstream g states id

/-- The critical components of the graph that need nothing critical, in id order. -/
def rootCauses (g : Graph) (states : StateMap) : List ComponentId :=
  g.components.filter fun id ↦ states.isCritical id && isRoot g states id

end Cascade.State
