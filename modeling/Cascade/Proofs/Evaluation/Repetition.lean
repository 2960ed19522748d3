import Cascade.Proofs.Evaluation.Look
import Cascade.Proofs.Evaluation.Session
import Cascade.Proofs.State.Evaluation
import Mathlib

/-!
# A pass run again

A pass that went through has put everything in its place: what the components show is what was
spread, so spreading it again changes no state, and with the same states nothing opens and nothing
ends.

`Attempt.run_again` says that another pass at the same time, over no more components and with no
new signals, goes through with the same states and leaves the store as it is.
-/

namespace Cascade.Evaluation

open Store

namespace Attempt

variable {setup : Setup} {p q : Attempt} {m : Memory} {r : Report} {id : ComponentId}
  {st : ComponentState}

theorem takeIn_of_arrivals (quiet : q.arrivals = []) (m : Memory) : q.takeIn m = m := by
  rw [takeIn, quiet]
  rfl

/-- The states that a pass spreads: those that were kept, and over them those that it found. -/
def merged (setup : Setup) (m : Memory) (r : Report) : StateMap :=
  (withDefaults setup.graph m.states).override r.isolated

/-- What a marked component shows is what is spread of it. -/
theorem Looked.stateOf_merged (looked : Looked setup p m r) (marked : id ∈ p.dirty)
    (shows : Shows setup (p.takeIn m) p.now id st) : (merged setup m r).stateOf id = st := by
  have found : r.isolated.get? id = some st := looked.isolated.2 ⟨marked, shows⟩
  rw [merged, StateMap.stateOf_override, found]
  rfl

/-- What is spread of a component that was not marked is what was kept. -/
theorem Looked.stateOf_merged_of_not_marked (looked : Looked setup p m r)
    (unmarked : id ∉ p.dirty) :
    (merged setup m r).stateOf id = m.states.stateOf id := by
  have unseen : r.isolated.get? id = none := by
    by_contra seen
    obtain ⟨st, seen⟩ := Option.ne_none_iff_exists'.1 seen
    exact unmarked (looked.isolated.1 seen).1
  rw [merged, StateMap.stateOf_override, unseen, stateOf_withDefaults]
  rfl

/-! ### After a pass that went through -/

section Done

variable (built : setup.graph.Built) (done : p.ending setup m = .done r)

include built done

/-- A component shows after the pass what it showed in it. -/
theorem shows_again (marked : id ∈ p.dirty) (shows : Shows setup (p.takeIn m) p.now id st) :
    Shows setup (p.run setup m).2 p.now id st := by
  have report := Ending.report?_of_done done
  have spread := (looked report).stateOf_merged marked shows
  obtain ⟨mem, threshold, own, shown⟩ := shows
  have state : r.effective.stateOf id = State.effectiveState setup.graph (merged setup m r) id := by
    rw [(planned report).effective]
    exact State.stateOf_propagate built mem
  have again : State.evaluate ((p.takeIn m).log.find id) (r.effective.stateOf id) threshold p.now =
      some st := by
    refine (State.grounds_of_evaluate shown).again ?_ ?_
    · intro elevated
      rw [state, State.effectiveState_of_isElevated (spread.symm ▸ elevated), spread]
    · intro calm
      rw [state, State.isElevated_effectiveState, spread, calm]
  refine ⟨mem, threshold, own, ?_⟩
  rw [log_run, states_of_done built done]
  exact again

/-- The states that it left lack no component of the graph. -/
theorem withDefaults_of_done :
    withDefaults setup.graph (p.run setup m).2.states = r.effective := by
  rw [states_of_done built done]
  exact withDefaults_eq_self fun id mem ↦
    (planned (Ending.report?_of_done done)).mem_effective built (.inr mem)

variable {r' : Report} (report : (q.ending setup (p.run setup m).2).report? = some r')
  (quiet : q.arrivals = []) (fewer : ∀ id ∈ q.dirty, id ∈ p.dirty) (time : q.now = p.now)

include report quiet fewer time

/-- The next pass finds of each component what was spread of it. -/
theorem stateOf_merged_of_again (h : r'.isolated.get? id = some st) :
    id ∈ setup.graph ∧ (merged setup m r).stateOf id = st := by
  obtain ⟨marked, shows⟩ := (looked report).isolated.1 h
  rw [takeIn_of_arrivals quiet, time] at shows
  have before := looked (Ending.report?_of_done done)
  obtain ⟨st', shows'⟩ := before.shown (fewer id marked) shows.1
  have same : st' = st := (shows_again built done (fewer id marked) shows').unique shows
  exact ⟨shows.1, same ▸ before.stateOf_merged (fewer id marked) shows'⟩

theorem effective_of_again : r'.effective = r.effective := by
  have spread : r.effective = State.propagate setup.graph (merged setup m r) :=
    (planned (Ending.report?_of_done done)).effective
  rw [(planned report).effective, withDefaults_of_done built done, spread]
  exact State.propagate_override built
    (stateOf_merged_of_again built done report quiet fewer time)

theorem transition_of_again (tidy : IncidentBook.Tidy m.book.incidents) :
    r'.transition = .none := by
  have before := (planned (Ending.report?_of_done done)).transition
  have book : (p.run setup m).2.book = m.book.save r.transition := by
    rw [book_run, done]
    rfl
  rw [(planned report).transition, withDefaults_of_done built done,
    effective_of_again built done report quiet fewer time]
  apply Incident.detect_eq_none
  · intro c _
    refine Bool.eq_false_iff.2 fun opens ↦ ?_
    obtain ⟨was, is, -, -⟩ := Incident.opens_iff.1 opens
    exact was is
  · intro c hc active
    rw [book, before] at active
    exact Incident.critical_of_mem_active_save tidy hc active

end Done

/-- A pass that writes the states that are kept, and no incidents, leaves the store as it is. -/
theorem run_of_nothing_new (done : q.ending setup m = .done r) (quiet : q.arrivals = [])
    (transition : r.transition = .none) (states : r.effective = m.states) :
    (q.run setup m).2 = m := by
  obtain ⟨announced, eq⟩ := run_eq_announce setup q m
  have same : m.states.override m.states = m.states := IdMap.override_eq_right fun _ mem ↦ mem
  rw [eq, done, takeIn_of_arrivals quiet]
  dsimp only [Ending.announced, Ending.states, Ending.saved, Ending.report?, Option.map_some,
    Option.getD_some]
  rw [transition, states, same, IncidentBook.save_none]
  rfl

/-- After a pass that went through, every further one goes through that no call fails. -/
theorem exists_done_again (built : setup.graph.Built) (done : p.ending setup m = .done r)
    (quiet : q.arrivals = []) (fewer : ∀ id ∈ q.dirty, id ∈ p.dirty) (time : q.now = p.now)
    (sure : q.faults = .none) : ∃ r', q.ending setup (p.run setup m).2 = .done r' := by
  obtain ⟨alerts, left⟩ := run_kept setup p m
  obtain ⟨-, ⟨-, incidents⟩, -, states⟩ := ending_eq_done_iff.1 done
  obtain ⟨log, took⟩ := p.takeIn_eq m
  refine exists_done sure ?_ ?_ ?_
  · rw [left, took]
    exact states
  · rw [left, took]
    exact incidents
  · intro id marked mem
    obtain ⟨st, shows⟩ := (looked (Ending.report?_of_done done)).shown (fewer id marked) mem
    rw [takeIn_of_arrivals quiet, time]
    exact ⟨st, shows_again built done (fewer id marked) shows⟩

/-- A pass that is run again at the same time, over no more components and with no new signals, goes
through: it opens and ends nothing, reports the same states and root causes, and leaves everything
that is kept as it is. -/
theorem run_again (built : setup.graph.Built) (tidy : IncidentBook.Tidy m.book.incidents)
    (ok : (p.run setup m).1 = .ok r) (quiet : q.arrivals = [])
    (fewer : ∀ id ∈ q.dirty, id ∈ p.dirty) (time : q.now = p.now) (sure : q.faults = .none) :
    ∃ r', q.run setup (p.run setup m).2 = (.ok r', (p.run setup m).2) ∧
      r'.transition = .none ∧ r'.effective = r.effective ∧ r'.rootCauses = r.rootCauses := by
  have done := run_eq_ok_iff.1 ok
  obtain ⟨r', again⟩ := exists_done_again built done quiet fewer time sure
  have report := Ending.report?_of_done again
  have effective := effective_of_again built done report quiet fewer time
  have transition := transition_of_again built done report quiet fewer time tidy
  have kept := run_of_nothing_new again quiet transition
    (effective.trans (states_of_done built done).symm)
  refine ⟨r', Prod.ext (run_eq_ok_iff.2 again) kept, transition, effective, ?_⟩
  rw [(planned report).rootCauses, (planned (Ending.report?_of_done done)).rootCauses, effective]

section

open Pair

/-- The upper component becomes critical, and the lower one is well by its own signals. -/
def outage : Attempt :=
  attempt [signal upper .critical 0, signal lower .info 0] [upper, lower] 0 .none

/-- The lower component is looked at once more. -/
def echo : Attempt := attempt [] [lower] 0 .none

/-- The lower component is impacted after the first pass and well by its own signals in the second,
and yet nothing changes. -/
theorem run_again_outage : ∃ r r', (outage.run Pair.setup .empty).1 = .ok r ∧
    r.effective.stateOf lower = .impacted ∧
    echo.run Pair.setup (outage.run Pair.setup .empty).2 =
      (.ok r', (outage.run Pair.setup .empty).2) ∧
    r'.transition = .none ∧ r'.effective = r.effective ∧ r'.rootCauses = r.rootCauses := by
  have answers : (outage.run Pair.setup .empty).1.map (·.effective.stateOf lower) =
      .ok .impacted := by
    set_option maxRecDepth 4000 in cbv
  have fewer : ∀ id ∈ echo.dirty.keys, id ∈ outage.dirty := by decide
  obtain ⟨r, ok, impacted⟩ := exists_of_map_eq_ok answers
  obtain ⟨r', again⟩ := run_again (q := echo) graph_built Session.sound_start.tidy ok rfl
    (fun id marked ↦ fewer id (IdMap.mem_keys.2 marked)) rfl rfl
  exact ⟨r, r', ok, impacted, again⟩

end

end Attempt

end Cascade.Evaluation
