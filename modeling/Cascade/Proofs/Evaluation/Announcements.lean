import Cascade.Proofs.Evaluation.Session
import Mathlib

/-!
# Every incident announced once

A pass announces the transition that it wrote, if it wrote everything.  `due` lists what has to be
announced of an incident, and `due_apply` says how a transition adds to that exactly what its alerts
tell.  So what is due of an incident is what was written of it in a session (`Session.due_play`),
and the records hold what was announced (`Session.announcements_play`).

`Session.announcedOnce_play_iff` concludes that everything is announced once exactly if no torn pass
wrote an incident: what a torn pass wrote is never announced.
-/

namespace Cascade

open Store

/-! ## What is told of an incident -/

/-- What the alerts of a transition tell of an incident, in their order. -/
def Transition.toldOf (t : Transition) (id : IncidentId) : List AlertKind :=
  (t.alerts.filter (·.1.id = id)).map (·.2)

/-- A transition that is not empty tells of some incident. -/
theorem Transition.exists_toldOf {t : Transition} (h : t.isEmpty = false) :
    ∃ id, t.toldOf id ≠ [] := by
  have some_ : t.alerts ≠ [] := by
    intro none
    simp_all [Transition.alerts, Transition.isEmpty]
  obtain ⟨a, ha⟩ := List.exists_mem_of_ne_nil _ some_
  refine ⟨a.1.id, List.ne_nil_of_mem (List.mem_map.2 ⟨a, List.mem_filter.2 ⟨ha, ?_⟩, rfl⟩)⟩
  exact decide_eq_true rfl

/-- What has to be told of an incident by now. -/
def due : Option Incident → List AlertKind
  | none => []
  | some i => if i.isOpen then [.opened] else [.opened, .resolved]

namespace Store.IncidentBook

variable {m : IdMap Incident} {t : Transition}

theorem filter_eq_find?_toList {l : List Incident} (nodup : (l.map (·.id)).Nodup)
    (id : IncidentId) : l.filter (·.id = id) = (l.find? (·.id = id)).toList := by
  induction l with
  | nil => rfl
  | cons i l ih =>
    rw [List.filter_cons, List.find?_cons]
    by_cases h : i.id = id
    · subst h
      have rest := ih nodup.of_cons
      rw [find?_eq_none_of_nodup nodup] at rest
      simp [rest]
    · simp [h, ih nodup.of_cons]

/-- What is told of an incident: that it opened if it is among the new ones, and that it ended if it
is among those. -/
theorem toldOf_eq (fits : Fits m t) (id : IncidentId) : t.toldOf id =
    (t.opened.find? (·.id = id)).toList.map (fun _ ↦ .opened) ++
      (t.resolved.find? (·.id = id)).toList.map (fun _ ↦ .resolved) := by
  rw [← filter_eq_find?_toList fits.opening.ids, ← filter_eq_find?_toList fits.closing.ids]
  simp [Transition.toldOf, Transition.alerts, List.filter_map, Function.comp_def]

/-- A transition that fits adds to what is due of an incident what it tells of it. -/
theorem due_apply (fits : Fits m t) (id : IncidentId) :
    due ((apply t m).get? id) = due (m.get? id) ++ t.toldOf id := by
  rw [toldOf_eq fits, get?_apply fits]
  cases ended : t.resolved.find? (·.id = id) with
  | none =>
    cases begun : t.opened.find? (·.id = id) with
    | none => simp
    | some i =>
      obtain ⟨mem, rfl⟩ := of_find? begun
      simp [fits.opening.new i mem, due, fits.opening.isOpen i mem]
  | some i =>
    obtain ⟨mem, rfl⟩ := of_find? ended
    obtain ⟨j, stored, open_⟩ := fits.closing.kept i mem
    -- an incident that was kept is not new
    have old : t.opened.find? (·.id = i.id) = none := by
      refine List.find?_eq_none.2 fun k hk eq ↦ ?_
      have new := fits.opening.new k hk
      rw [of_decide_eq_true eq, stored] at new
      cases new
    simp [old, stored, due, open_, fits.closing.isOver i mem]

end Store.IncidentBook

/-! ## What the records hold -/

/-- What the records of alerts tell of an incident, in their order. -/
def Store.Memory.announcements (m : Memory) (id : IncidentId) : List AlertKind :=
  (m.alerts.filter (·.incident = id)).map (·.kind)

/-- Everything that happened to the incidents that are kept is announced, each thing once and in its
order, and nothing else is. -/
structure Store.Memory.AnnouncedOnce (m : Memory) : Prop where
  /-- Of an open incident it is announced that it opened. -/
  ongoing : ∀ {id i}, m.book.incidents.get? id = some i → i.isOpen = true →
    m.announcements id = [.opened]
  /-- Of an incident that is over it is announced that it opened, and then that it ended. -/
  ended : ∀ {id i}, m.book.incidents.get? id = some i → i.isOpen = false →
    m.announcements id = [.opened, .resolved]
  /-- Every record is of an incident that is kept. -/
  kept : ∀ a ∈ m.alerts, a.incident ∈ m.book.incidents

theorem Store.Memory.announcedOnce_iff {m : Memory} :
    m.AnnouncedOnce ↔ ∀ id, m.announcements id = due (m.book.incidents.get? id) := by
  constructor
  · intro once id
    cases stored : m.book.incidents.get? id with
    | none =>
      have absent : id ∉ m.book.incidents := IdMap.not_mem_iff.2 stored
      have no_record : m.alerts.filter (·.incident = id) = [] := by
        refine List.filter_eq_nil_iff.2 fun a ha eq ↦ absent ?_
        rw [← of_decide_eq_true eq]
        exact once.kept a ha
      rw [announcements, no_record]
      rfl
    | some i =>
      cases open_ : i.isOpen with
      | true => simp [once.ongoing stored open_, due, open_]
      | false => simp [once.ended stored open_, due, open_]
  · intro all
    refine ⟨?_, ?_, ?_⟩
    · intro id i stored open_
      simp [all, stored, due, open_]
    · intro id i stored ended
      simp [all, stored, due, ended]
    · intro a ha
      by_contra absent
      have told := all a.incident
      rw [IdMap.not_mem_iff.1 absent, due, announcements, List.map_eq_nil_iff,
        List.filter_eq_nil_iff] at told
      exact told a ha (decide_eq_true rfl)

namespace Evaluation

/-- An ending announces what it wrote, or nothing. -/
theorem Ending.announced_eq (e : Ending) : e.announced = e.saved ∨ e.announced = .none := by
  cases e with
  | unwritten e => exact .inr rfl
  | torn r e => exact .inr rfl
  | done r => exact .inl rfl

namespace Session

variable {setup : Setup} {ps : List Attempt} {p : Attempt}

theorem due_play (built : setup.graph.Built) (ids : (play setup ps).DistinctIds)
    (id : IncidentId) : due ((play setup ps).memory.book.incidents.get? id) =
      (play setup ps).past.flatMap fun x ↦ x.ending.saved.toldOf id := by
  refine (play_induction (motive := fun ps ↦
    due ((play setup ps).memory.book.incidents.get? id) =
      (play setup ps).past.flatMap fun x ↦ x.ending.saved.toldOf id) built ids rfl ?_).2
  intro qs q sound fits ih
  rw [play_snoc, book_next, IncidentBook.save, IncidentBook.due_apply fits, ih]
  simp [next]

theorem announcements_play (built : setup.graph.Built) (ids : (play setup ps).DistinctIds)
    (id : IncidentId) : (play setup ps).memory.announcements id =
      (play setup ps).past.flatMap fun x ↦ x.ending.announced.toldOf id := by
  refine (play_induction (motive := fun ps ↦ (play setup ps).memory.announcements id =
    (play setup ps).past.flatMap fun x ↦ x.ending.announced.toldOf id) built ids rfl ?_).2
  intro qs q sound fits ih
  have records : ∀ t : Transition,
      ((t.alerts.map (AlertRecord.internal q.now)).filter (·.incident = id)).map (·.kind) =
        t.toldOf id := by
    intro t
    rw [List.filter_map, List.map_map]
    rfl
  rw [play_snoc, Memory.announcements, alerts_next sound, List.filter_append, List.map_append,
    records, ← Memory.announcements, ih]
  simp [next]

/-- In a session everything is announced once exactly if no pass wrote incidents without writing its
states. -/
theorem announcedOnce_play_iff (built : setup.graph.Built) (ids : (play setup ps).DistinctIds) :
    (play setup ps).memory.AnnouncedOnce ↔
      ∀ x ∈ (play setup ps).past, ∀ r e, x.ending = .torn r e → r.transition.isEmpty = true := by
  rw [Memory.announcedOnce_iff]
  simp only [due_play built ids, announcements_play built ids]
  constructor
  · intro once x hx r e torn
    by_contra written
    -- of some incident less is announced in this pass than is written, and never more in another
    obtain ⟨id, told⟩ := Transition.exists_toldOf (Bool.not_eq_true _ ▸ written)
    have fewer : ∀ y : Passed, (y.ending.announced.toldOf id).length ≤
        (y.ending.saved.toldOf id).length := by
      intro y
      rcases y.ending.announced_eq with eq | eq
      · rw [eq]
      · rw [eq]
        exact Nat.zero_le _
    have less : (x.ending.announced.toldOf id).length < (x.ending.saved.toldOf id).length := by
      rw [torn]
      exact List.length_pos_of_ne_nil told
    have sum := List.sum_lt_sum (l := (play setup ps).past) _ _ (fun y _ ↦ fewer y) ⟨x, hx, less⟩
    have same := congrArg List.length (once id)
    rw [List.length_flatMap, List.length_flatMap] at same
    exact absurd same (Nat.ne_of_lt sum)
  · intro whole id
    refine List.flatMap_congr ?_
    intro x hx
    cases ending : x.ending with
    | unwritten e => rfl
    | torn r e =>
      have empty := whole x hx r e ending
      have none : r.transition = .none := Transition.eq_none_of_isEmpty empty
      simp [Ending.announced, Ending.saved, Ending.report?, none]
    | done r => rfl

section

open Pair

/-- The upper component becomes critical, which cannot be stored. -/
def mishap : Attempt := attempt [signal upper .critical 0] [upper] 0
  { Faults.none with saveStates := some (.unavailable .states) }

/-- The pass is run again, and now goes through. -/
def retry : Attempt := attempt [] [upper] 0 .none

/-- The pass that is run again announces nothing, as the incident was written by the first. -/
theorem not_announcedOnce_retry :
    (∃ r, (retry.run Pair.setup (play Pair.setup [mishap]).memory).1 = .ok r) ∧
    ¬ (play Pair.setup [mishap, retry]).memory.AnnouncedOnce ∧
    ¬ ∀ x ∈ (play Pair.setup [mishap, retry]).past, ∀ r e, x.ending = .torn r e →
      r.transition.isEmpty = true := by
  have answers : (retry.run Pair.setup (play Pair.setup [mishap]).memory).1.map
      (·.rootCauses) = .ok [upper] := by
    set_option maxRecDepth 4000 in cbv
  have ids : (play Pair.setup [mishap, retry]).ids = [upper] := by
    set_option maxRecDepth 4000 in cbv
  have distinct := distinctIds_of_ids_eq ids
  have stored : ((play Pair.setup [mishap, retry]).memory.book.incidents.get? upper).map
      (·.isOpen) = some true := by
    set_option maxRecDepth 4000 in cbv
  have silent : (play Pair.setup [mishap, retry]).memory.announcements upper = [] := by
    set_option maxRecDepth 4000 in cbv
  have missing : ¬ (play Pair.setup [mishap, retry]).memory.AnnouncedOnce := by
    intro once
    obtain ⟨i, kept, open_⟩ := Option.map_eq_some_iff.1 stored
    have told := once.ongoing kept open_
    rw [silent] at told
    cases told
  obtain ⟨r, ok, -⟩ := exists_of_map_eq_ok answers
  exact ⟨⟨r, ok⟩, missing, fun whole ↦
    missing ((announcedOnce_play_iff graph_built distinct).2 whole)⟩

end

end Session

end Evaluation

end Cascade
