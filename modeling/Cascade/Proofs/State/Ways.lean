import Cascade.Proofs.Graph.Construction
import Cascade.Proofs.State.Propagation

/-!
# Propagation follows the ways

Propagation searches everything that a component needs for critical components.  What it finds does
not hang on the search: `State.spreadsByWays_propagate` says which state every component has after
propagation by the dependencies that the graph was built from and the ways along them, which
entries there are, which entries make no difference, and that propagating once more changes nothing.
-/

namespace Cascade

namespace State

variable {components : List ComponentId} {edges : List Edge} {g : Graph} {states : StateMap}
  {id : ComponentId}

/-- A way leads to a component from a critical component of the graph. -/
def Below (edges : List Edge) (g : Graph) (states : StateMap) (id : ComponentId) : Prop :=
  ∃ u ∈ g, states.get? u = some .critical ∧ Edge.Leads edges u id

/-- A component has no trouble of its own. -/
def Calm (states : StateMap) (id : ComponentId) : Prop :=
  states.get? id ≠ some .critical ∧ states.get? id ≠ some .degraded

/-- Propagation does what the ways along the dependencies say. -/
structure SpreadsByWays (edges : List Edge) (g : Graph) (states : StateMap) : Prop where
  /-- There are entries for the components of the graph and for those that had one. -/
  mem_iff : ∀ id, id ∈ propagate g states ↔ id ∈ g ∨ id ∈ states
  /-- A component of the graph is critical exactly if it was. -/
  critical_iff : ∀ id ∈ g,
    ((propagate g states).get? id = some .critical ↔ states.get? id = some .critical)
  /-- A component of the graph is degraded exactly if it was. -/
  degraded_iff : ∀ id ∈ g,
    ((propagate g states).get? id = some .degraded ↔ states.get? id = some .degraded)
  /-- Any other component is impacted exactly if a way leads to it from a critical one. -/
  impacted_iff : ∀ id ∈ g, Calm states id →
    ((propagate g states).get? id = some .impacted ↔ Below edges g states id)
  /-- Otherwise it is healthy exactly if it was, -/
  healthy_iff : ∀ id ∈ g, Calm states id → ¬ Below edges g states id →
    ((propagate g states).get? id = some .healthy ↔ states.get? id = some .healthy)
  /-- and else unknown. -/
  unknown_iff : ∀ id ∈ g, Calm states id → ¬ Below edges g states id →
    ((propagate g states).get? id = some .unknown ↔ states.get? id ≠ some .healthy)
  /-- Entries for other components stay as they are. -/
  foreign : ∀ id, id ∉ g → (propagate g states).get? id = states.get? id
  /-- They make no difference to the components of the graph. -/
  congr : ∀ other : StateMap, (∀ id ∈ g, other.get? id = states.get? id) →
    ∀ id ∈ g, (propagate g other).get? id = (propagate g states).get? id
  /-- Propagating once more changes nothing. -/
  again : propagate g (propagate g states) = propagate g states

theorem hasCriticalUpstream_iff_below (built : Graph.build components edges = .ok g) :
    hasCriticalUpstream g states id = true ↔ Below edges g states id := by
  rw [hasCriticalUpstream_iff_exists ⟨components, edges, built⟩]
  simp only [Graph.reaches_iff_leads built, Below]

theorem Calm.isElevated_eq_false (calm : Calm states id) :
    (states.stateOf id).isElevated = false := by
  rw [Bool.eq_false_iff, Ne, ComponentState.isElevated_iff, StateMap.stateOf_eq_iff (by decide),
    StateMap.stateOf_eq_iff (by decide), not_or]
  exact calm

/-- Without trouble of its own or above a component is what it was, or unknown if it was
impacted. -/
theorem effectiveState_of_free (built : Graph.build components edges = .ok g)
    (calm : Calm states id) (free : ¬ Below edges g states id) :
    effectiveState g states id = withoutImpact (states.stateOf id) := by
  rw [effectiveState, calm.isElevated_eq_false, if_neg Bool.false_ne_true, if_neg]
  rwa [hasCriticalUpstream_iff_below built]

/-- What propagation comes to is told by the ways along the dependencies of the graph. -/
theorem spreadsByWays_propagate (built : Graph.build components edges = .ok g)
    (states : StateMap) : SpreadsByWays edges g states := by
  have made : g.Built := ⟨components, edges, built⟩
  have after : ∀ {id s}, id ∈ g →
      ((propagate g states).get? id = some s ↔ effectiveState g states id = s) := by
    intro id s mem
    rw [get?_propagate made, if_pos mem, Option.some_inj]
  refine ⟨?mem_iff, ?critical_iff, ?degraded_iff, ?impacted_iff, ?healthy_iff, ?unknown_iff,
    ?foreign, ?congr, ?again⟩
  case mem_iff =>
    intro id
    rw [IdMap.mem_def, get?_propagate made]
    split_ifs with mem
    · exact iff_of_true rfl (.inl mem)
    · exact (or_iff_right mem).symm
  case critical_iff =>
    intro id mem
    rw [after mem, effectiveState_eq_critical_iff, StateMap.stateOf_eq_iff (by decide)]
  case degraded_iff =>
    intro id mem
    rw [after mem, effectiveState_eq_degraded_iff, StateMap.stateOf_eq_iff (by decide)]
  case impacted_iff =>
    intro id mem calm
    rw [after mem, effectiveState_eq_impacted_iff, hasCriticalUpstream_iff_below built]
    exact and_iff_left calm.isElevated_eq_false
  case healthy_iff =>
    intro id mem calm free
    rw [after mem, effectiveState_of_free built calm free,
      ← StateMap.stateOf_eq_iff ComponentState.noConfusion]
    cases states.stateOf id <;> simp [withoutImpact]
  case unknown_iff =>
    intro id mem calm free
    have own := calm.isElevated_eq_false
    rw [after mem, effectiveState_of_free built calm free, Ne,
      ← StateMap.stateOf_eq_iff ComponentState.noConfusion]
    revert own
    cases states.stateOf id <;> simp [withoutImpact, ComponentState.isElevated]
  case foreign =>
    intro id other
    rw [get?_propagate made, if_neg other]
  case congr =>
    intro other agree id mem
    have states_eq : ∀ id ∈ g, other.stateOf id = states.stateOf id := fun id mem ↦ by
      rw [StateMap.stateOf, StateMap.stateOf, agree id mem]
    rw [get?_propagate made, get?_propagate made, if_pos mem, if_pos mem,
      effectiveState_congr_of_agree made states_eq mem]
  case again => exact propagate_propagate made states

section

/-- A component of a small graph, or one outside it. -/
def numbered (n : UInt8) : ComponentId := ⟨List.replicate 16 n, List.length_replicate⟩

/-- The first component is needed by the second, that one by the third, and that one by the
fourth. -/
def chain : List Edge :=
  [⟨numbered 3, numbered 4⟩, ⟨numbered 1, numbered 2⟩, ⟨numbered 2, numbered 3⟩]

def chainGraph : Graph :=
  (Graph.build [numbered 4, numbered 3, numbered 2, numbered 1] chain).toOption.getD .empty

/-- The first component is critical, the third degraded, the fourth well, and one outside the graph
impacted. -/
def mixed : StateMap := .ofList
  [(numbered 1, .critical), (numbered 3, .degraded), (numbered 4, .healthy),
    (numbered 5, .impacted)]

/-- The second component, of which nothing was known, is impacted, and so is the fourth over the
degraded one. -/
theorem spreadsByWays_mixed :
    Graph.build [numbered 4, numbered 3, numbered 2, numbered 1] chain = .ok chainGraph ∧
    (propagate chainGraph mixed).values =
      [.critical, .impacted, .degraded, .impacted, .impacted] ∧
    SpreadsByWays chain chainGraph mixed := by
  have built : Graph.build [numbered 4, numbered 3, numbered 2, numbered 1] chain =
      .ok chainGraph := rfl
  exact ⟨built, by decide +kernel, spreadsByWays_propagate built mixed⟩

end

end State

end Cascade
