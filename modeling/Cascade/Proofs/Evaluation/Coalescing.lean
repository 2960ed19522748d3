import Cascade.Proofs.Evaluation.Consistency
import Cascade.Proofs.Evaluation.Repetition
import Mathlib

/-!
# One pass for several

A look at a component asks of its state only what trouble it has of its own
(`State.evaluate_congr`), and what passes do to a state that was not looked at never touches that.
So passes at one time, one after another and with no new signals, leave each component with the
trouble that it shows at the beginning, if it was looked at, and otherwise with the trouble that it
had (`Settled`, `Session.settled_coalesced`).

States that fit the graph differ at most in who is healthy and who is unknown where the trouble is
the same (`State.sameVerdict_of_trouble`).  `Session.coalesce` concludes that a single pass over all
the components comes to the same verdict.
-/

namespace Cascade

open Time

namespace ComponentState

def trouble? (s : ComponentState) : Option ComponentState := if s.isElevated then some s else none

theorem eq_of_trouble?_eq {s t : ComponentState} (h : s.trouble? = t.trouble?)
    (elevated : t.isElevated = true) : s = t := by
  revert h elevated
  cases s <;> cases t <;> decide

theorem isElevated_congr {s t : ComponentState} (h : s.trouble? = t.trouble?) :
    s.isElevated = t.isElevated := by
  revert h
  cases s <;> cases t <;> decide

/-- Components with the same trouble are in the same states of trouble. -/
theorem eq_iff_of_trouble?_eq {s t trouble : ComponentState} (h : s.trouble? = t.trouble?)
    (elevated : trouble.isElevated = true) : s = trouble ↔ t = trouble := by
  constructor
  · rintro rfl
    exact eq_of_trouble?_eq h.symm elevated
  · rintro rfl
    exact eq_of_trouble?_eq h elevated

/-- Components with the same trouble that are both impacted, or both not, differ at most in who is
healthy and who is unknown. -/
theorem eq_or_calm {s t : ComponentState} (h : s.trouble? = t.trouble?)
    (impacted : s = .impacted ↔ t = .impacted) :
    s = t ∨ s = .healthy ∧ t = .unknown ∨ s = .unknown ∧ t = .healthy := by
  revert h impacted
  cases s <;> cases t <;> decide

end ComponentState

namespace State

variable {g : Graph} {states s t : StateMap} {id : ComponentId} {signals : List Signal}
  {threshold : Threshold} {now : Instant} {previous next found : ComponentState}

/-! ## Trouble -/

/-- A look asks of the state that a component had only for its trouble. -/
theorem evaluate_congr (same : next.trouble? = previous.trouble?) :
    evaluate signals next threshold now = evaluate signals previous threshold now := by
  cases elevated : previous.isElevated with
  | true => rw [ComponentState.eq_of_trouble?_eq same elevated]
  | false =>
    have calm : next.isElevated = false := (ComponentState.isElevated_congr same).trans elevated
    simp [evaluate, elevated, calm]

/-- A second look finds what the first one found, if the component has the trouble that was found in
it. -/
theorem evaluate_again (shown : evaluate signals previous threshold now = some found)
    (same : next.trouble? = found.trouble?) :
    evaluate signals next threshold now = some found := by
  refine (grounds_of_evaluate shown).again ?_ ?_
  · exact ComponentState.eq_of_trouble?_eq same
  · exact fun calm ↦ (ComponentState.isElevated_congr same).trans calm

/-- Propagation touches nobody's own trouble. -/
theorem trouble?_effectiveState :
    (effectiveState g states id).trouble? = (states.stateOf id).trouble? := by
  rw [ComponentState.trouble?, ComponentState.trouble?, isElevated_effectiveState]
  cases elevated : (states.stateOf id).isElevated with
  | true => rw [effectiveState_of_isElevated elevated]
  | false => rfl

/-! ## Verdicts -/

/-- Two maps of states give the same verdict on the components of a graph. -/
structure SameVerdict (g : Graph) (s t : StateMap) : Prop where
  critical : ∀ id ∈ g, s.get? id = some .critical ↔ t.get? id = some .critical
  degraded : ∀ id ∈ g, s.get? id = some .degraded ↔ t.get? id = some .degraded
  impacted : ∀ id ∈ g, s.get? id = some .impacted ↔ t.get? id = some .impacted
  /-- Where the states differ, one is healthy and the other unknown. -/
  calm : ∀ id, s.get? id = t.get? id ∨
    s.get? id = some .healthy ∧ t.get? id = some .unknown ∨
    s.get? id = some .unknown ∧ t.get? id = some .healthy

/-- States that fit a graph give the same verdict where every component has the same trouble. -/
theorem sameVerdict_of_trouble (fits : Consistent g s) (fits' : Consistent g t)
    (trouble : ∀ {id}, id ∈ g → (s.stateOf id).trouble? = (t.stateOf id).trouble?)
    (outside : ∀ {id}, id ∉ g → s.get? id = t.get? id) : SameVerdict g s t := by
  have both : ∀ {id}, id ∈ g → ∃ x y, s.get? id = some x ∧ t.get? id = some y ∧
      x.trouble? = y.trouble? := by
    intro id mem
    obtain ⟨x, hx⟩ := IdMap.mem_iff.1 (fits.stored mem)
    obtain ⟨y, hy⟩ := IdMap.mem_iff.1 (fits'.stored mem)
    have same := trouble mem
    rw [StateMap.stateOf, StateMap.stateOf, hx, hy] at same
    exact ⟨x, y, hx, hy, same⟩
  have elevated : ∀ {id trouble}, id ∈ g → trouble.isElevated = true →
      (s.get? id = some trouble ↔ t.get? id = some trouble) := by
    intro id trouble mem elevated
    obtain ⟨x, y, hx, hy, same⟩ := both mem
    rw [hx, hy, Option.some_inj, Option.some_inj]
    exact ComponentState.eq_iff_of_trouble?_eq same elevated
  have impacted : ∀ id ∈ g, s.get? id = some .impacted ↔ t.get? id = some .impacted := by
    intro id mem
    rw [fits.impacted mem, fits'.impacted mem, Ne, Ne, Ne, Ne, elevated mem rfl, elevated mem rfl]
    refine and_congr_left fun _ ↦ exists_congr fun u ↦ and_congr_right fun hu ↦ ?_
    rw [elevated hu rfl]
  refine ⟨fun _ mem ↦ elevated mem rfl, fun _ mem ↦ elevated mem rfl, impacted, fun id ↦ ?_⟩
  by_cases mem : id ∈ g
  · obtain ⟨x, y, hx, hy, same⟩ := both mem
    have iff := impacted id mem
    rw [hx, hy, Option.some_inj, Option.some_inj] at iff
    simp only [hx, hy, Option.some_inj]
    exact ComponentState.eq_or_calm same iff
  · exact .inl (outside mem)

/-- The root causes hang on who is critical. -/
theorem rootCauses_congr (h : s.isCritical = t.isCritical) : rootCauses g s = rootCauses g t := by
  unfold rootCauses isRoot hasCriticalUpstream
  rw [h]

theorem SameVerdict.rootCauses_eq (h : SameVerdict g s t) : rootCauses g s = rootCauses g t := by
  refine rootCauses_congr (funext fun id ↦ ?_)
  rw [StateMap.isCritical, StateMap.isCritical]
  rcases h.calm id with eq | ⟨hs, ht⟩ | ⟨hs, ht⟩
  · rw [eq]
  · rw [hs, ht]
    rfl
  · rw [hs, ht]
    rfl

end State

namespace Evaluation

open Store

/-- States for components of the graph that have none change those of no other component. -/
theorem get?_withDefaults_of_not_mem {g : Graph} {states : StateMap} {id : ComponentId}
    (h : id ∉ g) : (withDefaults g states).get? id = states.get? id := by
  have same := stateOf_withDefaults g states id
  have iff : id ∈ withDefaults g states ↔ id ∈ states := by simp [mem_withDefaults, h]
  rw [IdMap.mem_def, IdMap.mem_def] at iff
  rw [StateMap.stateOf, StateMap.stateOf] at same
  cases new : (withDefaults g states).get? id <;> cases old : states.get? id <;> simp_all

/-- What is kept after some components were looked at over a store, at one time and with no new
signals. -/
structure Settled (setup : Setup) (m : Memory) (now : Instant) (marked : ComponentId → Prop)
    (n : Memory) : Prop where
  log : n.log = m.log
  statesClosed : n.statesClosed = m.statesClosed
  incidentsClosed : n.incidentsClosed = m.incidentsClosed
  /-- A component that was looked at has the trouble that it showed at the beginning. -/
  looked : ∀ {id}, id ∈ setup.graph → marked id →
    ∃ st, Shows setup m now id st ∧ (n.states.stateOf id).trouble? = st.trouble?
  /-- Another one has the trouble that it had. -/
  kept : ∀ {id}, ¬ marked id →
    (n.states.stateOf id).trouble? = (m.states.stateOf id).trouble?
  /-- Nothing changes outside the graph. -/
  outside : ∀ {id}, id ∉ setup.graph → n.states.get? id = m.states.get? id

section

variable {setup : Setup} {m n n' : Memory} {now : Instant} {marked marked' : ComponentId → Prop}
  {id : ComponentId} {st : ComponentState}

theorem settled_refl (setup : Setup) (m : Memory) (now : Instant) :
    Settled setup m now (fun _ ↦ False) m :=
  ⟨rfl, rfl, rfl, fun _ absurd ↦ absurd.elim, fun _ ↦ rfl, fun _ ↦ rfl⟩

theorem Settled.congr (settled : Settled setup m now marked n)
    (iff : ∀ id, marked id ↔ marked' id) : Settled setup m now marked' n :=
  (funext fun id ↦ propext (iff id)) ▸ settled

/-- A component goes on showing what it showed at the beginning. -/
theorem Settled.shows (settled : Settled setup m now marked n) :
    Shows setup n now id st ↔ Shows setup m now id st := by
  by_cases mem : id ∈ setup.graph
  · by_cases seen : marked id
    · obtain ⟨found, shows, same⟩ := settled.looked mem seen
      have again : Shows setup n now id found := by
        obtain ⟨-, threshold, own, shown⟩ := shows
        exact ⟨mem, threshold, own, settled.log ▸ State.evaluate_again shown same⟩
      constructor
      · intro h
        exact h.unique again ▸ shows
      · intro h
        exact h.unique shows ▸ again
    · rw [Shows, Shows, settled.log]
      simp only [State.evaluate_congr (settled.kept seen)]
  · exact ⟨fun h ↦ absurd h.1 mem, fun h ↦ absurd h.1 mem⟩

/-- However the components were looked at, they have the same trouble. -/
theorem Settled.trouble?_eq (settled : Settled setup m now marked n)
    (settled' : Settled setup m now marked' n') (iff : ∀ id, marked id ↔ marked' id)
    (mem : id ∈ setup.graph) :
    (n.states.stateOf id).trouble? = (n'.states.stateOf id).trouble? := by
  by_cases seen : marked id
  · obtain ⟨st, shows, same⟩ := settled.looked mem seen
    obtain ⟨st', shows', same'⟩ := settled'.looked mem ((iff id).1 seen)
    rw [same, same', shows.unique shows']
  · rw [settled.kept seen, settled'.kept fun seen' ↦ seen ((iff id).2 seen')]

end

namespace Attempt

variable {setup : Setup} {p : Attempt} {m n : Memory} {r : Report} {id : ComponentId}
  {now : Instant} {marked : ComponentId → Prop}

theorem stateOf_effective (built : setup.graph.Built)
    (report : (p.ending setup m).report? = some r) (mem : id ∈ setup.graph) :
    r.effective.stateOf id = State.effectiveState setup.graph (merged setup m r) id := by
  rw [(planned report).effective]
  exact State.stateOf_propagate built mem

/-- A pass changes nothing outside the graph. -/
theorem get?_effective_of_not_mem (built : setup.graph.Built)
    (report : (p.ending setup m).report? = some r) (h : id ∉ setup.graph) :
    r.effective.get? id = m.states.get? id := by
  have unseen : r.isolated.get? id = none := by
    by_contra seen
    obtain ⟨st, seen⟩ := Option.ne_none_iff_exists'.1 seen
    exact h ((looked report).isolated.1 seen).2.1
  rw [(planned report).effective, State.get?_propagate built, if_neg h, IdMap.get?_override, unseen,
    get?_withDefaults_of_not_mem h]
  rfl

/-- A component that was not marked keeps its trouble. -/
theorem trouble?_effective_of_not_marked (built : setup.graph.Built)
    (report : (p.ending setup m).report? = some r) (unmarked : id ∉ p.dirty) :
    (r.effective.stateOf id).trouble? = (m.states.stateOf id).trouble? := by
  by_cases mem : id ∈ setup.graph
  · rw [stateOf_effective built report mem, State.trouble?_effectiveState,
      (looked report).stateOf_merged_of_not_marked unmarked]
  · rw [StateMap.stateOf, StateMap.stateOf, get?_effective_of_not_mem built report mem]

/-- One more pass settles the components that it looks at. -/
theorem settled_run (built : setup.graph.Built) (settled : Settled setup m now marked n)
    (quiet : p.arrivals = []) (time : p.now = now) (done : p.ending setup n = .done r) :
    Settled setup m now (fun id ↦ marked id ∨ id ∈ p.dirty) (p.run setup n).2 := by
  have report := Ending.report?_of_done done
  have states := states_of_done built done
  obtain ⟨alerts, left⟩ := run_kept setup p n
  refine ⟨?_, ?_, ?_, ?_, ?_, ?_⟩
  · rw [log_run, takeIn_of_arrivals quiet, settled.log]
  · rw [left, takeIn_of_arrivals quiet]
    exact settled.statesClosed
  · rw [left, takeIn_of_arrivals quiet]
    exact settled.incidentsClosed
  · intro id mem seen
    rw [states]
    by_cases dirty : id ∈ p.dirty
    · obtain ⟨st, shows⟩ := (looked report).shown dirty mem
      have spread := (looked report).stateOf_merged dirty shows
      rw [takeIn_of_arrivals quiet, time, settled.shows] at shows
      refine ⟨st, shows, ?_⟩
      rw [stateOf_effective built report mem, State.trouble?_effectiveState, spread]
    · rw [trouble?_effective_of_not_marked built report dirty]
      exact settled.looked mem (seen.resolve_right dirty)
  · intro id unseen
    obtain ⟨before, dirty⟩ := not_or.1 unseen
    rw [states, trouble?_effective_of_not_marked built report dirty, settled.kept before]
  · intro id absent
    rw [states, get?_effective_of_not_mem built report absent, settled.outside absent]

end Attempt

namespace Session

variable {setup : Setup} {m : Memory} {c p : Attempt} {ps : List Attempt} {r : Report}
  {now : Instant}

/-- All passes of a run go through. -/
abbrev Through (setup : Setup) (m : Memory) (ps : List Attempt) : Prop :=
  EachPass setup (resume m) ps fun n q ↦ ∃ r, (q.run setup n).1 = .ok r

/-- Passes at one time, with no new signals, settle the components that they look at. -/
theorem settled_coalesced (built : setup.graph.Built) (quiet : ∀ q ∈ ps, q.arrivals = [])
    (time : ∀ q ∈ ps, q.now = now) (through : Through setup m ps) :
    Settled setup m now (fun id ↦ ∃ q ∈ ps, id ∈ q.dirty) (goOn setup (resume m) ps).memory := by
  induction ps using List.reverseRecOn with
  | nil => exact (settled_refl setup m now).congr (by simp)
  | append_singleton ps p ih =>
    obtain ⟨earlier, r, ok⟩ := eachPass_snoc.1 through
    have settled := ih (fun q hq ↦ quiet q (List.mem_append_left _ hq))
      (fun q hq ↦ time q (List.mem_append_left _ hq)) earlier
    have more := Attempt.settled_run built settled (quiet p (by simp)) (time p (by simp))
      (Attempt.run_eq_ok_iff.1 ok)
    rw [goOn_snoc]
    exact more.congr fun id ↦ by simp [or_and_right, exists_or]

/-- Passes at one time that all go through come, one after another and with no new signals, to the
verdict of a single pass over all their components, which goes through too. -/
theorem coalesce (built : setup.graph.Built) (quiet : ∀ q ∈ ps ++ [p], q.arrivals = [])
    (time : ∀ q ∈ ps ++ [p], q.now = c.now) (through : Through setup m ps)
    (ok : (p.run setup (goOn setup (resume m) ps).memory).1 = .ok r)
    (union : ∀ id, id ∈ c.dirty ↔ ∃ q ∈ ps ++ [p], id ∈ q.dirty) (silent : c.arrivals = [])
    (sure : c.faults = .none) :
    ∃ r', (c.run setup m).1 = .ok r' ∧
      (goOn setup (resume m) (ps ++ [p])).memory.states = r.effective ∧
      (c.run setup m).2.states = r'.effective ∧
      State.SameVerdict setup.graph r.effective r'.effective ∧ r.rootCauses = r'.rootCauses := by
  have done := Attempt.run_eq_ok_iff.1 ok
  have report := Ending.report?_of_done done
  have settled := settled_coalesced built quiet time (eachPass_snoc.2 ⟨through, r, ok⟩)
  -- the single pass goes through, as every component shows over the stores of the beginning what it
  -- showed when it was looked at
  have before := settled_coalesced built (fun q hq ↦ quiet q (List.mem_append_left _ hq))
    (fun q hq ↦ time q (List.mem_append_left _ hq)) through
  obtain ⟨-, ⟨-, incidents⟩, -, states⟩ := Attempt.ending_eq_done_iff.1 done
  obtain ⟨r', single⟩ : ∃ r', c.ending setup m = .done r' := by
    refine Attempt.exists_done sure (before.statesClosed ▸ states)
      (before.incidentsClosed ▸ incidents) ?_
    intro id marked mem
    obtain ⟨st, shows, -⟩ := settled.looked mem ((union id).1 marked)
    exact ⟨st, by rwa [Attempt.takeIn_of_arrivals silent]⟩
  have report' := Ending.report?_of_done single
  have settled' := Attempt.settled_run built (settled_refl setup m c.now) silent rfl single
  have stored : (goOn setup (resume m) (ps ++ [p])).memory.states = r.effective := by
    rw [goOn_snoc]
    exact states_next_done built done
  have stored' := Attempt.states_of_done built single
  have same : State.SameVerdict setup.graph r.effective r'.effective := by
    refine State.sameVerdict_of_trouble (Attempt.consistent_effective built report)
      (Attempt.consistent_effective built report') ?_ ?_
    · intro id mem
      rw [← stored, ← stored']
      refine settled.trouble?_eq settled' (fun id ↦ ?_) mem
      rw [← union, false_or]
    · intro id absent
      rw [← stored, ← stored', settled.outside absent, settled'.outside absent]
  refine ⟨r', Attempt.run_eq_ok_iff.2 single, stored, stored', same, ?_⟩
  rw [(Attempt.planned report).rootCauses, (Attempt.planned report').rootCauses, same.rootCauses_eq]

section

open Pair

/-- The upper component becomes critical, and two minutes later both are heard to be well. -/
def mending : Memory := (play Pair.setup
  [attempt [signal upper .critical 0] [upper] 0 .none,
    attempt [signal upper .info 120, signal lower .info 120] [] 120 .none]).memory

/-- A look at some components then. -/
def glance (dirty : List ComponentId) : Attempt := attempt [] dirty 120 .none

/-- Where the lower component is looked at before the upper one, it is found well, then impacted and
in the end unknown.  Where both are looked at together, it is well. -/
theorem coalesce_mending : ∃ r r',
    ((glance [upper]).run Pair.setup
      (goOn Pair.setup (resume mending) [glance [lower]]).memory).1 = .ok r ∧
    ((glance [upper, lower]).run Pair.setup mending).1 = .ok r' ∧
    r.effective.get? lower = some .unknown ∧ r'.effective.get? lower = some .healthy ∧
    State.SameVerdict graph r.effective r'.effective ∧ r.rootCauses = r'.rootCauses := by
  have first : ((glance [lower]).run Pair.setup mending).1.map (·.effective.get? lower) =
      .ok (some .impacted) := by
    set_option maxRecDepth 4000 in cbv
  have second : ((glance [upper]).run Pair.setup
      (goOn Pair.setup (resume mending) [glance [lower]]).memory).1.map (·.effective.get? lower) =
        .ok (some .unknown) := by
    set_option maxRecDepth 4000 in cbv
  have both : ((glance [upper, lower]).run Pair.setup mending).1.map (·.effective.get? lower) =
      .ok (some .healthy) := by
    set_option maxRecDepth 4000 in cbv
  obtain ⟨r₁, ok₁, -⟩ := exists_of_map_eq_ok first
  obtain ⟨r, ok, unknown⟩ := exists_of_map_eq_ok second
  obtain ⟨r', ok', healthy⟩ := exists_of_map_eq_ok both
  have through : Through Pair.setup mending [glance [lower]] :=
    eachPass_snoc.2 ⟨eachPass_nil, r₁, ok₁⟩
  have passes : ∀ q ∈ [glance [lower]] ++ [glance [upper]],
      q.arrivals = [] ∧ q.now = secondAt 120 := by
    intro q hq
    simp only [List.cons_append, List.nil_append, List.mem_cons, List.not_mem_nil, or_false] at hq
    rcases hq with rfl | rfl <;> exact ⟨rfl, rfl⟩
  have union : ∀ id, id ∈ (glance [upper, lower]).dirty ↔
      ∃ q ∈ [glance [lower]] ++ [glance [upper]], id ∈ q.dirty := by
    intro id
    simp [glance, attempt, IdMap.mem_setOf, or_comm]
  obtain ⟨r'', ok'', -, -, same, causes⟩ := coalesce graph_built (fun q hq ↦ (passes q hq).1)
    (fun q hq ↦ (passes q hq).2) through ok union rfl rfl
  cases ok'.symm.trans ok''
  exact ⟨r, r', ok, ok', unknown, healthy, same, causes⟩

end

end Session

end Evaluation

end Cascade
