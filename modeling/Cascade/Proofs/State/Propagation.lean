import Cascade.Proofs.Graph.Closure
import Cascade.State.Propagation

/-!
# The states after propagation

`get?_propagate` gives the look-ups after propagation: every component of the graph has its
effective state, and entries for others are kept.  Propagation makes nothing critical and nothing
uncritical (`isCritical_propagate`), so propagating its result once more changes nothing, also where
some components were looked at again with the same outcome (`propagate_override`).
-/

namespace Cascade

/-- The state of a component is critical exactly if its entry is. -/
theorem StateMap.stateOf_eq_critical_iff {m : StateMap} {id : ComponentId} :
    m.stateOf id = .critical ↔ m.isCritical id = true := by
  unfold stateOf isCritical
  cases m.get? id with
  | none => simp
  | some s => simp

/-- Any state but unknown is the state of a component exactly if it is its entry. -/
theorem StateMap.stateOf_eq_iff {m : StateMap} {id : ComponentId} {s : ComponentState}
    (known : s ≠ .unknown) : m.stateOf id = s ↔ m.get? id = some s := by
  unfold stateOf
  cases m.get? id with
  | none => simp [known.symm]
  | some s' => simp

theorem StateMap.isCritical_iff {m : StateMap} {id : ComponentId} :
    m.isCritical id = true ↔ m.get? id = some .critical := beq_iff_eq

theorem StateMap.stateOf_override (m n : StateMap) (id : ComponentId) :
    stateOf (m.override n) id = (n.get? id).getD (m.stateOf id) := by
  rw [stateOf, stateOf, IdMap.get?_override]
  cases n.get? id with
  | none => rfl
  | some s => rfl

theorem StateMap.isCritical_congr {m n : StateMap} {id : ComponentId}
    (h : m.stateOf id = n.stateOf id) : m.isCritical id = n.isCritical id := by
  rw [Bool.eq_iff_iff, ← stateOf_eq_critical_iff, ← stateOf_eq_critical_iff, h]

namespace State

variable {g : Graph} {states found : StateMap} {id : ComponentId}

/-! ### One component -/

theorem effectiveState_of_isElevated (h : (states.stateOf id).isElevated = true) :
    effectiveState g states id = states.stateOf id := by
  rw [effectiveState, if_pos h]

/-- Only a component's own trouble makes it one in trouble. -/
theorem isElevated_effectiveState :
    (effectiveState g states id).isElevated = (states.stateOf id).isElevated := by
  cases own : states.stateOf id <;> cases above : hasCriticalUpstream g states id <;>
    simp [effectiveState, own, above, withoutImpact, ComponentState.isElevated]

theorem effectiveState_eq_critical_iff :
    effectiveState g states id = .critical ↔ states.stateOf id = .critical := by
  cases own : states.stateOf id <;> cases above : hasCriticalUpstream g states id <;>
    simp [effectiveState, own, above, withoutImpact, ComponentState.isElevated]

theorem effectiveState_eq_degraded_iff :
    effectiveState g states id = .degraded ↔ states.stateOf id = .degraded := by
  cases own : states.stateOf id <;> cases above : hasCriticalUpstream g states id <;>
    simp [effectiveState, own, above, withoutImpact, ComponentState.isElevated]

/-- A component is impacted if it has no trouble of its own and something that it needs is
critical. -/
theorem effectiveState_eq_impacted_iff :
    effectiveState g states id = .impacted ↔
      hasCriticalUpstream g states id = true ∧ (states.stateOf id).isElevated = false := by
  cases own : states.stateOf id <;> cases above : hasCriticalUpstream g states id <;>
    simp [effectiveState, own, above, withoutImpact, ComponentState.isElevated]

/-- The effective state hangs on the component's own state and on which others are critical. -/
theorem effectiveState_congr {other : StateMap} (own : other.stateOf id = states.stateOf id)
    (critical : other.isCritical = states.isCritical) :
    effectiveState g other id = effectiveState g states id := by
  rw [effectiveState, effectiveState, own, hasCriticalUpstream, hasCriticalUpstream, critical]

/-- The effective state is its own effective state while the same components are critical. -/
theorem effectiveState_again {other : StateMap}
    (own : other.stateOf id = effectiveState g states id)
    (critical : other.isCritical = states.isCritical) :
    effectiveState g other id = effectiveState g states id := by
  have above : hasCriticalUpstream g other id = hasCriticalUpstream g states id := by
    rw [hasCriticalUpstream, hasCriticalUpstream, critical]
  rw [effectiveState, own, above]
  cases was : states.stateOf id <;> cases now : hasCriticalUpstream g states id <;>
    simp [effectiveState, was, now, withoutImpact, ComponentState.isElevated]

/-! ### All components -/

theorem get?_propagate (built : g.Built) (states : StateMap) (id : ComponentId) :
    (propagate g states).get? id =
      if id ∈ g then some (effectiveState g states id) else states.get? id := by
  rw [propagate, IdMap.get?_foldl_insert_of]
  simp only [built.mem_order]

/-- Every component of the graph has a state after propagation. -/
theorem mem_propagate (built : g.Built) (states : StateMap) {id : ComponentId} (h : id ∈ g) :
    id ∈ propagate g states := by
  rw [IdMap.mem_iff, get?_propagate built, if_pos h]
  exact ⟨_, rfl⟩

theorem stateOf_propagate (built : g.Built) (h : id ∈ g) :
    (propagate g states).stateOf id = effectiveState g states id := by
  rw [StateMap.stateOf, get?_propagate built, if_pos h]
  rfl

theorem isCritical_propagate (built : g.Built) :
    (propagate g states).isCritical = states.isCritical := by
  funext id
  by_cases h : id ∈ g
  · rw [Bool.eq_iff_iff, ← StateMap.stateOf_eq_critical_iff, ← StateMap.stateOf_eq_critical_iff,
      stateOf_propagate built h, effectiveState_eq_critical_iff]
  · rw [StateMap.isCritical, StateMap.isCritical, get?_propagate built, if_neg h]

/-- The states after propagation stay as they are where some components are looked at again, and
each is found in the state that was spread before. -/
theorem propagate_override (built : g.Built)
    (same : ∀ {id s}, found.get? id = some s → id ∈ g ∧ states.stateOf id = s) :
    propagate g ((propagate g states).override found) = propagate g states := by
  have critical : StateMap.isCritical ((propagate g states).override found) =
      states.isCritical := by
    funext id
    cases seen : found.get? id with
    | none =>
      refine (StateMap.isCritical_congr ?_).trans (congrFun (isCritical_propagate built) id)
      rw [StateMap.stateOf_override, seen]
      rfl
    | some s =>
      apply StateMap.isCritical_congr
      rw [StateMap.stateOf_override, seen, (same seen).2]
      rfl
  apply IdMap.ext
  intro id
  rw [get?_propagate built, get?_propagate built]
  by_cases h : id ∈ g
  · rw [if_pos h, if_pos h]
    apply congrArg some
    cases seen : found.get? id with
    | none =>
      refine effectiveState_again ?_ critical
      rw [StateMap.stateOf_override, seen, ← stateOf_propagate built h]
      rfl
    | some s =>
      refine effectiveState_congr ?_ critical
      rw [StateMap.stateOf_override, seen, (same seen).2]
      rfl
  · have absent : found.get? id = none := by
      by_contra some_
      obtain ⟨s, seen⟩ := Option.ne_none_iff_exists'.1 some_
      exact h (same seen).1
    rw [if_neg h, if_neg h, IdMap.get?_override, absent, get?_propagate built, if_neg h]
    rfl

theorem propagate_propagate (built : g.Built) (states : StateMap) :
    propagate g (propagate g states) = propagate g states :=
  @propagate_override g states ∅ built fun none ↦ nomatch none

/-- Something that a component needs is critical exactly if something critical reaches it. -/
theorem hasCriticalUpstream_iff (built : g.Built) :
    hasCriticalUpstream g states id = true ↔
      ∃ u, g.Reaches u id ∧ states.isCritical u = true := by
  simp [hasCriticalUpstream, built.mem_allUpstream]

theorem hasCriticalUpstream_iff_exists (built : g.Built) :
    hasCriticalUpstream g states id = true ↔
      ∃ u ∈ g, states.get? u = some .critical ∧ g.Reaches u id := by
  rw [hasCriticalUpstream_iff built]
  refine exists_congr fun u ↦ ?_
  rw [StateMap.isCritical_iff]
  constructor
  · rintro ⟨reaches, critical⟩
    exact ⟨(built.mem_of_reaches reaches).1, critical, reaches⟩
  · rintro ⟨-, critical, reaches⟩
    exact ⟨reaches, critical⟩

/-- Whether something critical is above a component hangs on the components of the graph only. -/
theorem hasCriticalUpstream_congr (built : g.Built) {other : StateMap}
    (agree : ∀ id ∈ g, other.isCritical id = states.isCritical id) :
    hasCriticalUpstream g other id = hasCriticalUpstream g states id := by
  rw [Bool.eq_iff_iff, hasCriticalUpstream_iff built, hasCriticalUpstream_iff built]
  refine exists_congr fun u ↦ and_congr_right fun reaches ↦ ?_
  rw [agree u (built.mem_of_reaches reaches).1]

/-- The effective states hang on the states of the components of the graph only. -/
theorem effectiveState_congr_of_agree (built : g.Built) {other : StateMap}
    (agree : ∀ id ∈ g, other.stateOf id = states.stateOf id) (mem : id ∈ g) :
    effectiveState g other id = effectiveState g states id := by
  have above : hasCriticalUpstream g other id = hasCriticalUpstream g states id :=
    hasCriticalUpstream_congr built fun id mem ↦ StateMap.isCritical_congr (agree id mem)
  rw [effectiveState, effectiveState, agree id mem, above]

/-- A root is a component that no critical one reaches. -/
theorem isRoot_iff (built : g.Built) :
    isRoot g states id = true ↔ ∀ u, g.Reaches u id → states.isCritical u = false := by
  simp [isRoot, hasCriticalUpstream, built.mem_allUpstream]

theorem isRoot_congr (built : g.Built) {other : StateMap}
    (agree : ∀ id ∈ g, other.isCritical id = states.isCritical id) :
    isRoot g other id = isRoot g states id := by
  rw [isRoot, isRoot, hasCriticalUpstream_congr built agree]

/-- The root causes hang on which components of the graph are critical. -/
theorem rootCauses_congr_of_agree (built : g.Built) {other : StateMap}
    (agree : ∀ id ∈ g, other.isCritical id = states.isCritical id) :
    rootCauses g other = rootCauses g states := by
  refine List.filter_congr fun id mem ↦ ?_
  rw [agree id (IdMap.mem_keys.1 mem), isRoot_congr built agree]

/-- The root causes are the critical components of the graph that need nothing critical. -/
theorem mem_rootCauses {states : StateMap} {id : ComponentId} :
    id ∈ rootCauses g states ↔
      id ∈ g ∧ states.isCritical id = true ∧ isRoot g states id = true := by
  rw [rootCauses, List.mem_filter, Graph.components, IdMap.mem_keys, Bool.and_eq_true]
  exact Iff.rfl

end State

end Cascade
