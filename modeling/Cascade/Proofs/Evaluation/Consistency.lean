import Cascade.Proofs.Evaluation.Session
import Mathlib

/-!
# Stored states fit the graph

After propagation every component of the graph has a state, and the impacted ones are those that
something critical reaches and that have no trouble of their own (`State.Consistent`,
`State.consistent_propagate`).

A pass that goes through stores such states, whatever was stored before it, and one that fails
stores none.  So from the first pass that goes through on, the stored states fit the graph
(`Session.consistent_goOn`).
-/

namespace Cascade

namespace State

/-- The states of the components of a graph fit its dependencies. -/
structure Consistent (g : Graph) (states : StateMap) : Prop where
  /-- Every component has a state. -/
  stored : ∀ {id}, id ∈ g → id ∈ states
  /-- The impacted components are those that a critical component of the graph reaches, and that are
  neither critical nor degraded. -/
  impacted : ∀ {id}, id ∈ g → (states.get? id = some .impacted ↔
    (∃ u ∈ g, states.get? u = some .critical ∧ g.Reaches u id) ∧
      states.get? id ≠ some .critical ∧ states.get? id ≠ some .degraded)
  /-- A healthy or unknown component needs nothing critical. -/
  calm : ∀ {id}, id ∈ g → states.get? id = some .healthy ∨ states.get? id = some .unknown →
    ∀ u ∈ g.allUpstream id, states.get? u ≠ some .critical

variable {g : Graph} {states : StateMap} {id : ComponentId}

/-- States that are the same for the components of the graph fit it, too. -/
theorem Consistent.congr (built : g.Built) (fits : Consistent g states) {other : StateMap}
    (agree : ∀ id ∈ g, other.get? id = states.get? id) : Consistent g other where
  stored {id} mem := by
    rw [IdMap.mem_def, agree id mem]
    exact fits.stored mem
  impacted {id} mem := by
    rw [agree id mem, fits.impacted mem]
    refine and_congr_left fun _ ↦ exists_congr fun u ↦ and_congr_right fun hu ↦ ?_
    rw [agree u hu]
  calm {id} mem calm u above := by
    have inside := (built.mem_of_reaches (built.mem_allUpstream.1 above)).1
    rw [agree id mem] at calm
    rw [agree u inside]
    exact fits.calm mem calm u above

/-- States that fit the graph are their own effective states. -/
theorem Consistent.effectiveState_eq (built : g.Built) (fits : Consistent g states)
    (mem : id ∈ g) : effectiveState g states id = states.stateOf id := by
  obtain ⟨s, stored⟩ := IdMap.mem_iff.1 (fits.stored mem)
  have own : states.stateOf id = s := by
    rw [StateMap.stateOf, stored]
    rfl
  have free : states.get? id = some .healthy ∨ states.get? id = some .unknown →
      hasCriticalUpstream g states id = false := by
    intro calm
    rw [Bool.eq_false_iff, Ne, hasCriticalUpstream_iff_exists built]
    rintro ⟨u, -, critical, reaches⟩
    exact fits.calm mem calm u (built.mem_allUpstream.2 reaches) critical
  cases s with
  | critical | degraded => exact effectiveState_of_isElevated (own.symm ▸ rfl)
  | impacted =>
    have above : hasCriticalUpstream g states id = true :=
      (hasCriticalUpstream_iff_exists built).2 ((fits.impacted mem).1 stored).1
    rw [own, effectiveState_eq_impacted_iff, own]
    exact ⟨above, rfl⟩
  | healthy =>
    rw [effectiveState, own, free (.inl stored)]
    rfl
  | unknown =>
    rw [effectiveState, own, free (.inr stored)]
    rfl

/-- Propagation leaves something critical above a component exactly if there was before. -/
theorem exists_critical_propagate_iff (built : g.Built) :
    (∃ u ∈ g, (propagate g states).get? u = some .critical ∧ g.Reaches u id) ↔
      hasCriticalUpstream g states id = true := by
  rw [← hasCriticalUpstream_iff_exists built, hasCriticalUpstream, isCritical_propagate built]
  exact Iff.rfl

/-- Propagation leaves states that fit the graph. -/
theorem consistent_propagate (built : g.Built) (states : StateMap) :
    Consistent g (propagate g states) where
  stored := mem_propagate built states
  impacted {id} mem := by
    rw [exists_critical_propagate_iff built, get?_propagate built, if_pos mem, Option.some_inj,
      effectiveState_eq_impacted_iff, ← isElevated_effectiveState (g := g)]
    refine and_congr_right fun _ ↦ ?_
    cases effectiveState g states id <;> simp [ComponentState.isElevated]
  calm {id} mem calm u above critical := by
    have reaches := built.mem_allUpstream.1 above
    have troubled : hasCriticalUpstream g states id = true :=
      (exists_critical_propagate_iff built).1
        ⟨u, (built.mem_of_reaches reaches).1, critical, reaches⟩
    rw [get?_propagate built, if_pos mem] at calm
    cases own : states.stateOf id <;>
      simp [effectiveState, own, troubled, ComponentState.isElevated] at calm

end State

namespace Evaluation

open Store

/-- A pass reports states that fit the graph. -/
theorem Attempt.consistent_effective {setup : Setup} {p : Attempt} {m : Memory} {r : Report}
    (built : setup.graph.Built) (report : (p.ending setup m).report? = some r) :
    State.Consistent setup.graph r.effective := by
  rw [(planned report).effective]
  exact State.consistent_propagate built _

namespace Session

variable {setup : Setup} {m : Memory} {s : Session} {ps : List Attempt} {p : Attempt} {r : Report}

/-- A pass that goes through stores states that fit the graph. -/
theorem consistent_next_done (built : setup.graph.Built) (h : p.ending setup s.memory = .done r) :
    State.Consistent setup.graph (s.next setup p).memory.states := by
  rw [states_next_done built h]
  exact Attempt.consistent_effective built (Ending.report?_of_done h)

/-- A pass that fails stores no states. -/
theorem states_next_of_not_ok (h : ¬ ∃ r, (p.run setup s.memory).1 = .ok r) :
    (s.next setup p).memory.states = s.memory.states := by
  cases ending : p.ending setup s.memory with
  | unwritten e => exact (next_unwritten ending).1
  | torn r e => exact states_next_torn ending
  | done r => exact absurd ⟨r, Attempt.run_eq_ok_iff.2 ending⟩ h

/-- Whatever the stores hold at first and whichever passes fail: once a pass has gone through, the
stored states fit the graph. -/
theorem consistent_goOn (built : setup.graph.Built)
    (once : ∃ before p after r, ps = before ++ p :: after ∧
      (p.run setup (goOn setup (resume m) before).memory).1 = .ok r) :
    State.Consistent setup.graph (goOn setup (resume m) ps).memory.states := by
  induction ps using List.reverseRecOn with
  | nil =>
    obtain ⟨before, p, after, -, eq, -⟩ := once
    exact absurd eq.symm (by simp)
  | append_singleton ps p ih =>
    rw [goOn_snoc]
    by_cases last : ∃ r, (p.run setup (goOn setup (resume m) ps).memory).1 = .ok r
    · obtain ⟨r, ok⟩ := last
      exact consistent_next_done built (Attempt.run_eq_ok_iff.1 ok)
    · rw [states_next_of_not_ok last]
      -- the pass that went through is an earlier one
      obtain ⟨before, q, after, r, eq, ok⟩ := once
      rcases snoc_eq_split_iff.1 eq with ⟨-, rfl, rfl⟩ | ⟨rest, -, eq⟩
      · exact absurd ⟨r, ok⟩ last
      · exact ih ⟨before, q, rest, r, eq, ok⟩

section

open Pair

/-- A component of another topology. -/
def stranger : ComponentId := ⟨List.replicate 16 4, rfl⟩

/-- What another topology left: a critical component that is in the graph no more, and an impacted
one that was below it. -/
def leftover : Memory :=
  { Memory.empty with states := .ofList [(stranger, .critical), (lower, .impacted)] }

/-- Nothing is heard, and the states cannot be written. -/
def blank : Attempt :=
  attempt [] [lower] 0 { Faults.none with saveStates := some (.unavailable .states) }

def surge : Attempt := attempt [signal upper .critical 1] [upper, stranger] 1 .none

/-- It recovers, which cannot be stored. -/
def ebb : Attempt :=
  attempt [signal upper .info 100] [upper] 100
    { Faults.none with saveStates := some (.unavailable .states) }

/-- The lower component stays impacted over these passes, for another reason in the end. -/
theorem consistent_ebb :
    (goOn Pair.setup (resume leftover) [blank, surge, ebb]).memory.states.get? lower =
      some .impacted ∧
    State.Consistent graph
      (goOn Pair.setup (resume leftover) [blank, surge, ebb]).memory.states := by
  have answers : (surge.run Pair.setup (goOn Pair.setup (resume leftover) [blank]).memory).1.map
      (·.rootCauses) = .ok [upper] := by
    set_option maxRecDepth 4000 in cbv
  have impacted : (goOn Pair.setup (resume leftover) [blank, surge, ebb]).memory.states.get? lower =
      some .impacted := by
    set_option maxRecDepth 4000 in cbv
  obtain ⟨r, ok, -⟩ := exists_of_map_eq_ok answers
  exact ⟨impacted, consistent_goOn graph_built ⟨[blank], surge, [ebb], r, rfl, ok⟩⟩

end

end Session

end Evaluation

end Cascade
