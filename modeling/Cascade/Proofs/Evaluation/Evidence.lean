import Cascade.Proofs.Evaluation.Look
import Cascade.Proofs.Evaluation.Session
import Cascade.Proofs.State.Evaluation
import Mathlib

/-!
# What stands behind a critical component

A component becomes critical only in a pass that looks at it and finds enough critical signals
within the window (`Attempt.critical_before_or_met`).  Trouble that goes on keeps a component
critical and makes none so, and no component becomes critical by what happens to others.

`Session.evidence_goOn` says what stands behind the incidents of a run of passes, and behind the
components that are stored as critical after it.
-/

namespace Cascade

open Time

namespace Store.SignalLog

/-- How many critical signals of a component are kept that are dated from `start` to `now`. -/
def criticalCount (l : SignalLog) (id : ComponentId) (start now : Instant) : Nat :=
  l.records.countP fun r ↦ r.component = id ∧ r.signal.severity = .critical ∧
    start ≤ r.signal.occurredAt ∧ r.signal.occurredAt ≤ now

/-- A component's critical signals in a window are those that are kept. -/
theorem count_inWindow_find (l : SignalLog) (id : ComponentId) (start now : Instant) :
    State.count (State.inWindow (l.find id) start now) .critical =
      l.criticalCount id start now := by
  have sorted : (l.find id).Perm ((l.of id).map (·.signal)) := List.mergeSort_perm _ _
  rw [State.count, State.inWindow, List.countP_filter, sorted.countP_eq, List.countP_map, of,
    List.countP_filter, criticalCount]
  refine List.countP_congr fun r _ ↦ ?_
  simp only [Function.comp_apply, State.within, Bool.and_eq_true, decide_eq_true_eq]
  constructor
  · rintro ⟨⟨severity, before, after⟩, own⟩
    exact ⟨own, severity, after, before⟩
  · rintro ⟨own, severity, after, before⟩
    exact ⟨⟨severity, before, after⟩, own⟩

end Store.SignalLog

namespace Evaluation

open Store

/-- Enough critical signals of a component are kept that are dated within its window. -/
def Met (setup : Setup) (m : Memory) (c : ComponentId) (now : Instant) : Prop :=
  ∃ threshold start, setup.thresholds.get? c = some threshold ∧
    now.back? threshold.window = some start ∧
    threshold.critical ≤ m.log.criticalCount c start now

/-- What stands behind an incident that a pass opens. -/
structure Evidence (setup : Setup) (p : Attempt) (m : Memory) (r : Report) (i : Incident) :
    Prop where
  /-- Its root was marked. -/
  dirty : i.root ∈ p.dirty
  /-- Enough critical signals of its root are kept that are dated within the window before it. -/
  met : Met setup (p.takeIn m) i.root i.startedAt
  /-- Nothing that its root needs is critical. -/
  first : ∀ u, setup.graph.Reaches u i.root → r.effective.isCritical u = false

namespace Attempt

variable {setup : Setup} {p : Attempt} {m : Memory} {r : Report} {c : ComponentId}

theorem met_of_shows (shows : Shows setup m p.now c .critical)
    (before : m.states.stateOf c ≠ .critical) : Met setup m c p.now := by
  obtain ⟨-, threshold, own, shown⟩ := shows
  obtain ⟨start, begins, enough⟩ := (State.grounds_of_evaluate shown).breached before
  rw [SignalLog.count_inWindow_find] at enough
  exact ⟨threshold, start, own, begins, enough⟩

/-- A component that a pass finds critical was so before, or was marked and has enough critical
signals. -/
theorem critical_before_or_met (built : setup.graph.Built)
    (report : (p.ending setup m).report? = some r) (critical : r.effective.isCritical c = true) :
    m.states.isCritical c = true ∨ c ∈ p.dirty ∧ Met setup (p.takeIn m) c p.now := by
  by_cases before : m.states.stateOf c = .critical
  · exact .inl (StateMap.stateOf_eq_critical_iff.1 before)
  have state : (p.takeIn m).states = m.states := by
    obtain ⟨log, took⟩ := p.takeIn_eq m
    rw [took]
  rw [(planned report).effective, State.isCritical_propagate built,
    ← StateMap.stateOf_eq_critical_iff, StateMap.stateOf_override, stateOf_withDefaults] at critical
  cases found : r.isolated.get? c with
  | none =>
    rw [found] at critical
    exact absurd critical before
  | some st =>
    rw [found] at critical
    cases critical
    obtain ⟨marked, shows⟩ := (looked report).isolated.1 found
    exact .inr ⟨marked, met_of_shows shows (state.symm ▸ before)⟩

theorem evidence_of_opened (built : setup.graph.Built)
    (report : (p.ending setup m).report? = some r) {i : Incident}
    (h : i ∈ r.transition.opened) : Evidence setup p m r i := by
  rw [(planned report).transition] at h
  obtain ⟨c, -, opens, rfl⟩ := Incident.mem_opened.1 h
  obtain ⟨before, critical, -, root⟩ := Incident.opens_iff.1 opens
  rw [stateOf_withDefaults] at before
  rcases critical_before_or_met built report (StateMap.stateOf_eq_critical_iff.1 critical) with
    old | ⟨marked, met⟩
  · exact absurd (StateMap.stateOf_eq_critical_iff.2 old) before
  · exact ⟨marked, met, (State.isRoot_iff built).1 root⟩

end Attempt

namespace Session

variable {setup : Setup} {m : Memory} {ps : List Attempt} {c : ComponentId}

/-- A component that is stored as critical was so at the beginning, or was marked in a pass and had
enough critical signals. -/
theorem met_of_isCritical (built : setup.graph.Built)
    (critical : (goOn setup (resume m) ps).memory.states.isCritical c = true) :
    m.states.isCritical c = true ∨ ∃ before p after, ps = before ++ p :: after ∧ c ∈ p.dirty ∧
      Met setup (p.takeIn (goOn setup (resume m) before).memory) c p.now := by
  induction ps using List.reverseRecOn with
  | nil => exact .inl critical
  | append_singleton ps p ih =>
    -- critical before the last pass, or made so by it
    have earlier : (goOn setup (resume m) ps).memory.states.isCritical c = true ∨
        c ∈ p.dirty ∧ Met setup (p.takeIn (goOn setup (resume m) ps).memory) c p.now := by
      rw [goOn_snoc] at critical
      cases ending : p.ending setup (goOn setup (resume m) ps).memory with
      | done r =>
        rw [states_next_done built ending] at critical
        exact Attempt.critical_before_or_met built (Ending.report?_of_done ending) critical
      | unwritten e =>
        rw [(next_unwritten ending).1] at critical
        exact .inl critical
      | torn r e =>
        rw [states_next_torn ending] at critical
        exact .inl critical
    rcases earlier with old | ⟨marked, met⟩
    · rcases ih old with initial | ⟨before, q, after, rfl, marked, met⟩
      · exact .inl initial
      · exact .inr ⟨before, q, after ++ [p], by simp, marked, met⟩
    · exact .inr ⟨ps, p, [], rfl, marked, met⟩

/-- Whatever the stores hold at first and whichever passes fail: behind every incident that a pass
opens there is evidence, and if no states are stored at first, every component that is stored as
critical was marked in some pass in which it had enough critical signals. -/
theorem evidence_goOn (built : setup.graph.Built) (m : Memory) (ps : List Attempt) :
    EachPass setup (resume m) ps (fun n p ↦ ∀ r, (p.ending setup n).report? = some r →
      ∀ i ∈ r.transition.opened, Evidence setup p n r i) ∧
    (m.states = ∅ → ∀ c, (goOn setup (resume m) ps).memory.states.isCritical c = true →
      ∃ before p after, ps = before ++ p :: after ∧ c ∈ p.dirty ∧
        Met setup (p.takeIn (goOn setup (resume m) before).memory) c p.now) := by
  constructor
  · intro before p after _ r report i opened
    exact Attempt.evidence_of_opened built report opened
  · intro empty c critical
    rcases met_of_isCritical built critical with initial | later
    · rw [empty] at initial
      cases initial
    · exact later

section

open Pair

def burst : Attempt := attempt [signal upper .critical 0] [upper] 0 .none

/-- Five minutes later only the lower component is looked at. -/
def later : Attempt := attempt [signal lower .info 300] [lower] 300 .none

/-- There is evidence for the incident of the first pass, and the upper component is still stored as
critical after the second for no other reason. -/
theorem evidence_later :
    (∃ r i, (burst.ending Pair.setup .empty).report? = some r ∧ i ∈ r.transition.opened ∧
      i.root = upper ∧ Evidence Pair.setup burst .empty r i) ∧
    (goOn Pair.setup (resume .empty) [burst, later]).memory.states.isCritical upper = true ∧
    ∃ before p after, [burst, later] = before ++ p :: after ∧ upper ∈ p.dirty ∧
      Met Pair.setup (p.takeIn (goOn Pair.setup (resume .empty) before).memory) upper p.now := by
  have answers : (burst.run Pair.setup .empty).1.map (·.transition) =
      .ok ⟨[.begin upper upper (secondAt 0)], []⟩ := by
    set_option maxRecDepth 4000 in cbv
  have critical : (goOn Pair.setup (resume .empty) [burst, later]).memory.states.isCritical upper =
      true := by
    set_option maxRecDepth 4000 in cbv
  obtain ⟨r, ok, transition⟩ := exists_of_map_eq_ok answers
  have report := Ending.report?_of_done (Attempt.run_eq_ok_iff.1 ok)
  have built : Pair.setup.graph.Built := graph_built
  obtain ⟨evidence, reason⟩ := evidence_goOn built .empty [burst, later]
  have opened : Incident.begin upper upper (secondAt 0) ∈ r.transition.opened := by
    rw [transition]
    exact List.mem_cons_self
  exact ⟨⟨r, _, report, opened, rfl, evidence [] burst [later] rfl r report _ opened⟩, critical,
    reason rfl upper critical⟩

end

end Session

end Evaluation

end Cascade
