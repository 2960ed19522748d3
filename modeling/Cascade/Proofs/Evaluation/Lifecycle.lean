import Cascade.Proofs.Evaluation.Session
import Cascade.Proofs.Incident.Course
import Mathlib

/-!
# The life of incidents in a session

Every pass of a session opens and ends incidents of components that stand apart, and a pass that
answers a report leaves the states of its report and the active incidents that they give rise to
(`Reported`).  Between passes an incident keeps its root and its start, and once it is over nothing
of it changes (`Session.onward_play`).

`Session.lifecycle_play` says all this of every session whose clock does not run backwards.
-/

namespace Cascade.Evaluation

open Store IncidentBook

/-- What a pass that answers a report leaves. -/
structure Reported (setup : Setup) (p : Attempt) (m : Memory) (r : Report) : Prop where
  /-- The states are those of the report. -/
  states : (p.run setup m).2.states = r.effective
  /-- The active incidents are those that it did not end, and those that it opened. -/
  active : ∀ {c i}, (p.run setup m).2.book.active.get? c = some i ↔
    (i ∈ r.transition.opened ∧ i.root = c) ∨
      m.book.active.get? c = some i ∧ ∀ k ∈ r.transition.resolved, k.id ≠ i.id
  /-- No component has two open incidents. -/
  single : ∀ {a b i j}, (p.run setup m).2.book.incidents.get? a = some i →
    (p.run setup m).2.book.incidents.get? b = some j → i.isOpen = true → j.isOpen = true →
      i.root = j.root → a = b
  /-- The root of every open incident is stored as critical. -/
  critical : ∀ {id i}, (p.run setup m).2.book.incidents.get? id = some i → i.isOpen = true →
    (p.run setup m).2.states.isCritical i.root = true

namespace Attempt

variable {setup : Setup} {p : Attempt} {m : Memory} {r : Report} {id : IncidentId} {i : Incident}

theorem apart_saved (built : setup.graph.Built) :
    (p.ending setup m).saved.Apart setup.graph := by
  cases report : (p.ending setup m).report? with
  | none =>
    rw [Ending.saved_of_report?_eq_none report]
    exact ⟨fun _ h ↦ absurd h List.not_mem_nil, fun _ h ↦ absurd h List.not_mem_nil⟩
  | some r =>
    rw [Ending.saved_of_report? report, (planned report).transition]
    exact Transition.apart_detect built fun h ↦ (of_active h).2.2

section

variable (tidy : Tidy m.book.incidents) (fits : Fits m.book.incidents (p.ending setup m).saved)

include tidy fits

/-- A pass changes an incident at most by ending it. -/
theorem onward_run (h : m.book.incidents.get? id = some i) :
    ∃ j, (p.run setup m).2.book.incidents.get? id = some j ∧ i.Onward j := by
  rw [book_run]
  cases report : (p.ending setup m).report? with
  | none =>
    rw [Ending.saved_of_report?_eq_none report]
    exact ⟨i, h, .refl i⟩
  | some r =>
    rw [Ending.saved_of_report? report, (planned report).transition] at fits ⊢
    rcases Incident.get?_save_detect tidy fits h with same | ⟨open_, ended⟩
    · exact ⟨i, same, .refl i⟩
    · exact ⟨i.resolve p.now, ended, Incident.onward_resolve open_ p.now⟩

/-- An incident after a pass begins then, or was there before and may have ended. -/
theorem of_get?_run (built : setup.graph.Built)
    (h : (p.run setup m).2.book.incidents.get? id = some i) :
    (∃ c ∈ setup.graph, i = .begin (p.fresh c) c p.now) ∨
      ∃ j, m.book.incidents.get? id = some j ∧ (i = j ∨ i = j.resolve p.now) := by
  rw [book_run] at h
  cases report : (p.ending setup m).report? with
  | none =>
    rw [Ending.saved_of_report?_eq_none report] at h
    exact .inr ⟨i, h, .inl rfl⟩
  | some r =>
    rw [Ending.saved_of_report? report, (planned report).transition] at fits h
    rcases Incident.of_get?_save_detect tidy fits h with ⟨c, hc, eq⟩ | old
    · exact .inl ⟨c, built.mem_order.1 hc, eq⟩
    · exact .inr old

theorem reported (built : setup.graph.Built) (ok : (p.run setup m).1 = .ok r)
    (rooted : ∀ {id i}, (p.run setup m).2.book.incidents.get? id = some i → i.root ∈ setup.graph) :
    Reported setup p m r := by
  have done := run_eq_ok_iff.1 ok
  have report := Ending.report?_of_done done
  have saved := Ending.saved_of_report? report
  have after : Tidy (p.run setup m).2.book.incidents := by
    rw [book_run]
    exact tidy.apply fits
  refine ⟨states_of_done built done, ?_, after.single, ?_⟩
  · rw [saved] at fits
    rw [book_run, saved]
    exact get?_active_save tidy fits
  · intro id i stored open_
    have active := mem_active.2 (hasOpen_iff.2 ⟨id, i, stored, open_, rfl⟩)
    rw [book_run, saved, (planned report).transition] at active
    rw [states_of_done built done, ← StateMap.stateOf_eq_critical_iff]
    exact Incident.critical_of_mem_active_save tidy (built.mem_order.2 (rooted stored)) active

end

end Attempt

namespace Session

variable {setup : Setup} {ps : List Attempt}

/-- What holds of an incident that was stored in a run of passes. -/
structure Recorded (setup : Setup) (ps : List Attempt) (i : Incident) : Prop where
  /-- Its root is a component of the graph. -/
  root : i.root ∈ setup.graph
  /-- It began at the time of a pass. -/
  begun : ∃ p ∈ ps, i.startedAt = p.now
  /-- It did not end before it began. -/
  ended : ∀ t, i.resolvedAt = some t → i.startedAt ≤ t

/-- Every incident that is stored in a run is so recorded, if the clock does not run backwards. -/
theorem recorded_play (built : setup.graph.Built) (ids : (play setup ps).DistinctIds)
    (times : ps.Pairwise (·.now ≤ ·.now)) {id : IncidentId} {i : Incident}
    (h : (play setup ps).memory.book.incidents.get? id = some i) : Recorded setup ps i := by
  have recorded := play_induction (motive := fun ps ↦ ps.Pairwise (·.now ≤ ·.now) →
    ∀ {id i}, (play setup ps).memory.book.incidents.get? id = some i → Recorded setup ps i)
    built ids ?_ ?_
  · exact recorded.2 times h
  · rintro - id i ⟨⟩
  · intro qs q sound fits ih times id i h
    obtain ⟨earlier, -, later⟩ := List.pairwise_append.1 times
    rw [play_snoc] at h
    rcases Attempt.of_get?_run sound.tidy fits built h with ⟨c, hc, rfl⟩ | ⟨j, stored, became⟩
    · exact ⟨hc, ⟨q, by simp, rfl⟩, nofun⟩
    · obtain ⟨root, ⟨p, hp, begun⟩, ended⟩ := ih earlier stored
      have begun' : ∃ x ∈ qs ++ [q], j.startedAt = x.now :=
        ⟨p, List.mem_append_left _ hp, begun⟩
      rcases became with rfl | rfl
      · exact ⟨root, begun', ended⟩
      · -- it ends at the time of this pass, and it began at that of an earlier one
        refine ⟨root, begun', fun t eq ↦ ?_⟩
        cases eq
        exact begun ▸ later p hp q (by simp)

/-- Over the rest of a run an incident changes at most by ending. -/
theorem onward_play (built : setup.graph.Built) (ids : (play setup ps).DistinctIds)
    {qs : List Attempt} (earlier : qs <+: ps) {id : IncidentId} {i : Incident}
    (h : (play setup qs).memory.book.incidents.get? id = some i) :
    ∃ j, (play setup ps).memory.book.incidents.get? id = some j ∧ i.Onward j := by
  have onward := play_induction (motive := fun ps ↦ qs <+: ps →
    ∃ j, (play setup ps).memory.book.incidents.get? id = some j ∧ i.Onward j) built ids ?_ ?_
  · exact onward.2 earlier
  · intro earlier
    rw [List.prefix_nil.1 earlier] at h
    exact ⟨i, h, .refl i⟩
  · intro ps p sound fits ih earlier
    rcases List.prefix_concat_iff.1 earlier with rfl | earlier
    · exact ⟨i, h, .refl i⟩
    · obtain ⟨j, stored, became⟩ := ih earlier
      obtain ⟨k, stored', became'⟩ := Attempt.onward_run sound.tidy fits stored
      rw [play_snoc]
      exact ⟨k, stored', became.trans became'⟩

/-- What holds of the incidents in a session. -/
structure Lifecycle (setup : Setup) (ps : List Attempt) : Prop where
  /-- A pass that answers a report leaves what it reports. -/
  reported : EachPass setup start ps fun m p ↦
    ∀ r, (p.run setup m).1 = .ok r → Reported setup p m r
  /-- The components whose incidents a pass opens and ends stand apart. -/
  apart : EachPass setup start ps fun m p ↦ (p.ending setup m).saved.Apart setup.graph
  /-- From any moment on, an incident keeps its root and its start, and all once it is over. -/
  onward : ∀ qs, qs <+: ps → ∀ {id i},
    (play setup qs).memory.book.incidents.get? id = some i →
      ∃ j, (play setup ps).memory.book.incidents.get? id = some j ∧ i.Onward j
  /-- At any moment no incident has ended before it began. -/
  ended : ∀ qs, qs <+: ps → ∀ {id i t},
    (play setup qs).memory.book.incidents.get? id = some i → i.resolvedAt = some t →
      i.startedAt ≤ t

/-- The incidents of a session whose clock does not run backwards have such a life. -/
theorem lifecycle_play (built : setup.graph.Built) (ids : (play setup ps).DistinctIds)
    (times : ps.Pairwise (·.now ≤ ·.now)) : Lifecycle setup ps where
  reported := by
    rintro qs q rest rfl r ok
    rw [List.append_cons] at ids times
    have ids' := distinctIds_of_append ids
    have sound := sound_play built (distinctIds_of_append ids')
    refine Attempt.reported sound.tidy ?_ built ok fun {id i} stored ↦ ?_
    · exact fits_next built sound (play_snoc ▸ ids')
    · have after : (play setup (qs ++ [q])).memory.book.incidents.get? id = some i := by
        rw [play_snoc]
        exact stored
      exact (recorded_play built ids' (List.pairwise_append.1 times).1 after).root
  apart := fun _ _ _ _ ↦ Attempt.apart_saved built
  onward := fun _ earlier _ _ ↦ onward_play built ids earlier
  ended := by
    rintro qs ⟨rest, rfl⟩ id i t stored
    have earlier := (List.pairwise_append.1 times).1
    exact (recorded_play built (distinctIds_of_append ids) earlier stored).ended t

section

open Pair

/-- The upper component becomes critical. -/
def fall : Attempt :=
  attempt [signal upper .critical 0, signal lower .info 0] [upper, lower] 0 .none

/-- It has recovered and the lower one becomes critical, which cannot be stored. -/
def falter : Attempt :=
  attempt [signal upper .info 120, signal lower .critical 120] [upper, lower] 120
    { Faults.none with saveStates := some (.unavailable .states) }

/-- A second after that it is stored. -/
def settle : Attempt := attempt [] [upper, lower] 121 .none

/-- One incident is over after these passes and one is not, and both have lived such a life. -/
theorem lifecycle_settle :
    (play Pair.setup [fall, falter, settle]).memory.book.incidents.values.map
      (fun i ↦ (i.root, i.startedAt, i.resolvedAt)) =
        [(upper, secondAt 0, some (secondAt 120)), (lower, secondAt 120, none)] ∧
    Lifecycle Pair.setup [fall, falter, settle] := by
  have kept : (play Pair.setup [fall, falter, settle]).memory.book.incidents.values.map
      (fun i ↦ (i.root, i.startedAt, i.resolvedAt)) =
        [(upper, secondAt 0, some (secondAt 120)), (lower, secondAt 120, none)] := by
    set_option maxRecDepth 4000 in cbv
  have ids : (play Pair.setup [fall, falter, settle]).ids = [upper, lower] := by
    set_option maxRecDepth 4000 in cbv
  have distinct : (play Pair.setup [fall, falter, settle]).DistinctIds := by
    rw [DistinctIds, ids]
    decide
  exact ⟨kept, lifecycle_play graph_built distinct (by decide)⟩

end

end Session

end Cascade.Evaluation
