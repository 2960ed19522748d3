import Cascade.Proofs.Evaluation.Coalescing
import Cascade.Proofs.Incident.Renaming

/-!
# A pass is local

A pass writes the states of all components.  Where the states that it finds fit the graph, it still
changes a component only if that was marked, or if something that the component needs became
critical or ceased to be (`Attempt.get?_effective_of_undisturbed`): any other component already has
the state that spreading gives it.  States of components outside the graph are kept, and nothing
else hangs on them (`Attempt.exists_run_elsewhere`).

`Attempt.local_run` says so of every pass over states that an earlier one left.
-/

namespace Cascade

/-- The entry of a component that has one is its state. -/
theorem StateMap.get?_eq_stateOf {m : StateMap} {id : ComponentId} (mem : id ∈ m) :
    m.get? id = some (m.stateOf id) := by
  obtain ⟨s, found⟩ := IdMap.mem_iff.1 mem
  rw [stateOf, found]
  rfl

namespace Evaluation

open Store

namespace Attempt

variable {setup setup₀ : Setup} {p q : Attempt} {m m₀ : Memory} {r r₀ : Report} {id : ComponentId}

/-! ## Components that a pass leaves alone -/

section

variable (built : setup.graph.Built) (report : (p.ending setup m).report? = some r)

include built report

/-- Spreading leaves critical what it was given as critical. -/
theorem isCritical_merged : (merged setup m r).isCritical = r.effective.isCritical := by
  rw [(planned report).effective]
  exact (State.isCritical_propagate built).symm

/-- Over states that fit the graph a component keeps its own if it is not marked and nothing that it
needs becomes critical or ceases to be. -/
theorem get?_effective_of_undisturbed (fits : State.Consistent setup.graph m.states)
    (mem : id ∈ setup.graph) (unmarked : id ∉ p.dirty)
    (undisturbed : ∀ u, setup.graph.Reaches u id →
      m.states.isCritical u = r.effective.isCritical u) :
    r.effective.get? id = m.states.get? id := by
  have own := (looked report).stateOf_merged_of_not_marked unmarked
  have above : State.hasCriticalUpstream setup.graph (merged setup m r) id =
      State.hasCriticalUpstream setup.graph m.states id := by
    rw [Bool.eq_iff_iff, State.hasCriticalUpstream_iff built, State.hasCriticalUpstream_iff built]
    refine exists_congr fun u ↦ and_congr_right fun reaches ↦ ?_
    rw [isCritical_merged built report, undisturbed u reaches]
  have same : r.effective.stateOf id = m.states.stateOf id := calc
    r.effective.stateOf id
      = State.effectiveState setup.graph (merged setup m r) id :=
        stateOf_effective built report mem
    _ = State.effectiveState setup.graph m.states id := by
        rw [State.effectiveState, State.effectiveState, own, above]
    _ = m.states.stateOf id := fits.effectiveState_eq built mem
  have present := (planned report).mem_effective built (.inr mem)
  rw [StateMap.get?_eq_stateOf present, StateMap.get?_eq_stateOf (fits.stored mem), same]

end

/-! ## Other components outside the graph -/

theorem takeIn_states (p : Attempt) (m : Memory) (states : StateMap) :
    p.takeIn { m with states } = { p.takeIn m with states } := by
  have go : ∀ (l : List SignalRecord) (m : Memory),
      l.foldl (fun m r ↦ (m.append r).2) { m with states } =
        { l.foldl (fun m r ↦ (m.append r).2) m with states } := by
    intro l
    induction l with
    | nil => exact fun _ ↦ rfl
    | cons r l ih => exact fun m ↦ ih (m.append r).2
  exact go _ _

section

variable {states : StateMap} (agree : ∀ id ∈ setup.graph, states.get? id = m.states.get? id)

include agree

theorem stateOf_of_agree (mem : id ∈ setup.graph) : states.stateOf id = m.states.stateOf id := by
  rw [StateMap.stateOf, StateMap.stateOf, agree id mem]

/-- A pass finds the same of the marked components where states differ outside the graph only. -/
theorem exists_done_elsewhere (fresh : ComponentId → IncidentId)
    (done : p.ending setup m = .done r) :
    ∃ r', Attempt.ending setup { p with fresh } { m with states } = .done r' ∧
      r'.isolated = r.isolated := by
  obtain ⟨plan, writes⟩ := ending_eq_done_iff.1 done
  obtain ⟨stored, active, loaded, opened, looked, -⟩ := of_plan plan
  obtain ⟨sure, eq⟩ := failing_eq_ok_iff.1 loaded
  cases eq
  have kept : (p.takeIn m).states = m.states := by
    obtain ⟨log, took⟩ := p.takeIn_eq m
    rw [took]
  -- the store with other states, as the other pass reads it
  have took : Attempt.takeIn { p with fresh } { m with states } = { p.takeIn m with states } :=
    p.takeIn_states m states
  have loaded' : p.access.loadStates { p.takeIn m with states } = .ok states :=
    failing_eq_ok_iff.2 ⟨sure, rfl⟩
  have looked' : lookAll p.access setup (withDefaults setup.graph states) p.now
      { p.takeIn m with states } p.dirty.keys ∅ = .ok r.isolated := by
    rw [← looked]
    refine lookAll_congr (fun _ ↦ rfl) fun id mem ↦ ?_
    rw [stateOf_withDefaults, stateOf_withDefaults, kept, stateOf_of_agree agree mem]
  obtain ⟨r', plan'⟩ := exists_plan loaded' opened looked'
  obtain ⟨_, _, loaded'', -, looked'', -⟩ := of_plan plan'
  cases loaded'.symm.trans loaded''
  refine ⟨r', ending_eq_done_iff.2 ⟨?_, writes⟩, Except.ok.inj (looked''.symm.trans looked')⟩
  rw [took]
  exact plan'

/-- States outside the graph make no difference to the components of the graph, to the incidents
that open and end, their ids aside, and to the root causes. -/
theorem exists_run_elsewhere (built : setup.graph.Built) (fresh : ComponentId → IncidentId)
    (ok : (p.run setup m).1 = .ok r) :
    ∃ r', (Attempt.run setup { p with fresh } { m with states }).1 = .ok r' ∧
      (∀ id ∈ setup.graph, r'.effective.get? id = r.effective.get? id) ∧
      r'.transition = r.transition.withIds fresh ∧ r'.rootCauses = r.rootCauses := by
  have done := run_eq_ok_iff.1 ok
  have report := Ending.report?_of_done done
  obtain ⟨r', done', isolated⟩ := exists_done_elsewhere agree fresh done
  have report' := Ending.report?_of_done done'
  have spread : ∀ id ∈ setup.graph,
      (merged setup { m with states } r').stateOf id = (merged setup m r).stateOf id := by
    intro id mem
    rw [merged, merged, StateMap.stateOf_override, StateMap.stateOf_override, isolated,
      stateOf_withDefaults, stateOf_withDefaults, stateOf_of_agree agree mem]
  have effective : ∀ id ∈ setup.graph, r'.effective.stateOf id = r.effective.stateOf id := by
    intro id mem
    rw [stateOf_effective built report' mem, stateOf_effective built report mem,
      State.effectiveState_congr_of_agree built spread mem]
  have previous : ∀ id ∈ setup.graph, (withDefaults setup.graph states).stateOf id =
      (withDefaults setup.graph m.states).stateOf id := by
    intro id mem
    rw [stateOf_withDefaults, stateOf_withDefaults, stateOf_of_agree agree mem]
  refine ⟨r', run_eq_ok_iff.2 done', ?_, ?_, ?_⟩
  · intro id mem
    have present := (planned report).mem_effective built (.inr mem)
    have present' := (planned report').mem_effective built (.inr mem)
    rw [StateMap.get?_eq_stateOf present', StateMap.get?_eq_stateOf present, effective id mem]
  · rw [(planned report').transition, (planned report).transition, Incident.withIds_detect]
    exact Incident.detect_congr built previous effective
  · rw [(planned report').rootCauses, (planned report).rootCauses]
    exact State.rootCauses_congr_of_agree built fun id mem ↦
      StateMap.isCritical_congr (effective id mem)

end

/-! ## Passes over what an earlier one left -/

/-- What a pass that goes through does not touch, and what it does not look at. -/
structure Local (setup : Setup) (p : Attempt) (m : Memory) (r : Report) : Prop where
  /-- A component that is not marked keeps its state if nothing that it needs becomes critical or
  ceases to be. -/
  undisturbed : ∀ id ∈ setup.graph, id ∉ p.dirty →
    (∀ u, setup.graph.Reaches u id →
      (m.states.get? u = some .critical ↔ (p.run setup m).2.states.get? u = some .critical)) →
    (p.run setup m).2.states.get? id = m.states.get? id
  /-- States outside the graph are kept. -/
  outside : ∀ id, id ∉ setup.graph → (p.run setup m).2.states.get? id = m.states.get? id
  /-- Over a store with other states outside the graph the pass goes through, too, and comes to the
  same for the components of the graph, the ids of new incidents aside. -/
  elsewhere : ∀ (states : StateMap) (fresh : ComponentId → IncidentId),
    (∀ id ∈ setup.graph, states.get? id = m.states.get? id) →
    ∃ r', (Attempt.run setup { p with fresh } { m with states }).1 = .ok r' ∧
      (∀ id ∈ setup.graph, r'.effective.get? id = r.effective.get? id ∧
        (Attempt.run setup { p with fresh } { m with states }).2.states.get? id =
          (p.run setup m).2.states.get? id) ∧
      r'.transition = r.transition.withIds fresh ∧ r'.rootCauses = r.rootCauses

/-- A pass is local where an earlier one over the same graph left the states of its components. -/
theorem local_run (built : setup.graph.Built) (same : setup₀.graph = setup.graph)
    (earlier : (q.run setup₀ m₀).1 = .ok r₀)
    (left : ∀ id ∈ setup.graph, m.states.get? id = (q.run setup₀ m₀).2.states.get? id)
    (ok : (p.run setup m).1 = .ok r) : Local setup p m r := by
  have done := run_eq_ok_iff.1 ok
  have report := Ending.report?_of_done done
  have after : (p.run setup m).2.states = r.effective := states_of_done built done
  have fits : State.Consistent setup.graph m.states := by
    have done₀ := run_eq_ok_iff.1 earlier
    rw [← same] at built left ⊢
    rw [states_of_done built done₀] at left
    exact (consistent_effective built (Ending.report?_of_done done₀)).congr built left
  refine ⟨?undisturbed, ?outside, ?elsewhere⟩
  case undisturbed =>
    intro id mem unmarked still
    rw [after] at still ⊢
    refine get?_effective_of_undisturbed built report fits mem unmarked fun u reaches ↦ ?_
    rw [Bool.eq_iff_iff, StateMap.isCritical_iff, StateMap.isCritical_iff, still u reaches]
  case outside =>
    intro id absent
    rw [after, get?_effective_of_not_mem built report absent]
  case elsewhere =>
    intro states fresh agree
    obtain ⟨r', ok', effective, transition, causes⟩ := exists_run_elsewhere agree built fresh ok
    refine ⟨r', ok', fun id mem ↦ ⟨effective id mem, ?_⟩, transition, causes⟩
    rw [states_of_done built (run_eq_ok_iff.1 ok'), after, effective id mem]

section

open Pair Session

/-- What the outage left, and a critical component of another topology. -/
def beside : Memory :=
  { (outage.run Pair.setup .empty).2 with
    states := (outage.run Pair.setup .empty).2.states.insert stranger .critical }

/-- The upper component, which is critical, is heard of again. -/
def reminder : Attempt := attempt [signal upper .critical 30] [upper, stranger] 30 .none

/-- The lower component stays impacted without being looked at. -/
theorem local_run_reminder : ∃ r₀ r, (outage.run Pair.setup .empty).1 = .ok r₀ ∧
    (reminder.run Pair.setup beside).1 = .ok r ∧ lower ∉ reminder.dirty ∧
    (reminder.run Pair.setup beside).2.states.get? lower = some .impacted ∧
    Local Pair.setup reminder beside r := by
  have earlier : (outage.run Pair.setup .empty).1.map (·.rootCauses) = .ok [upper] := by
    set_option maxRecDepth 4000 in cbv
  have now : (reminder.run Pair.setup beside).1.map (·.rootCauses) = .ok [upper] := by
    set_option maxRecDepth 4000 in cbv
  have impacted : (reminder.run Pair.setup beside).2.states.get? lower = some .impacted := by
    set_option maxRecDepth 4000 in cbv
  obtain ⟨r₀, ok₀, -⟩ := exists_of_map_eq_ok earlier
  obtain ⟨r, ok, -⟩ := exists_of_map_eq_ok now
  refine ⟨r₀, r, ok₀, ok, by decide, impacted, local_run graph_built rfl ok₀ (fun id mem ↦ ?_) ok⟩
  have other : stranger ≠ id := by
    rintro rfl
    revert mem
    decide
  show (IdMap.insert _ stranger _).get? id = _
  rw [IdMap.get?_insert, if_neg other]

end

end Attempt

end Evaluation

end Cascade
