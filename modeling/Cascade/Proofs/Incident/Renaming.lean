import Cascade.Proofs.Incident.Detection

/-!
# Incidents under other ids

The id of an incident is drawn when it opens, and nothing else hangs on it.  Two transitions that
differ in the ids of their new incidents leave the same incidents under other ids (`Renamed`):
`renamed_apply`.
-/

namespace Cascade

/-- The transition with other ids for its new incidents. -/
def Transition.withIds (fresh : ComponentId → IncidentId) (t : Transition) : Transition :=
  { t with opened := t.opened.map fun i ↦ { i with id := fresh i.root } }

/-- What becomes of an id where the new incidents of a transition get other ids. -/
def Transition.newId (fresh : ComponentId → IncidentId) (t : Transition) (id : IncidentId) :
    IncidentId :=
  ((t.opened.find? (·.id = id)).map fun i ↦ fresh i.root).getD id

/-- Detection gives out the ids and hangs on them in nothing else. -/
theorem Incident.withIds_detect (fresh fresh' : ComponentId → IncidentId) (g : Graph)
    (previous current : StateMap) (active : ActiveIncidents) (now : Time.Instant) :
    (detect fresh g previous current active now).withIds fresh' =
      detect fresh' g previous current active now := by
  simp [Transition.withIds, detect, begin, Function.comp_def]

namespace Store.IncidentBook

variable {m : IdMap Incident} {t : Transition} {fresh : ComponentId → IncidentId}

/-- The same incidents under other ids. -/
structure Renamed (rename : IncidentId → IncidentId) (m n : IdMap Incident) : Prop where
  injective : ∀ {a b}, a ∈ m → b ∈ m → rename a = rename b → a = b
  /-- Every incident stands under its other id, and is the same otherwise. -/
  moved : ∀ {id i}, m.get? id = some i → n.get? (rename id) = some { i with id := rename id }
  /-- There are no more incidents. -/
  onto : ∀ {k}, k ∈ n → ∃ id, id ∈ m ∧ rename id = k

/-- The ids after a transition are those before it and the new ones. -/
theorem mem_apply (fits : Fits m t) {id : IncidentId} :
    id ∈ apply t m ↔ id ∈ m ∨ ∃ i ∈ t.opened, i.id = id := by
  constructor
  · intro h
    obtain ⟨i, h⟩ := IdMap.mem_iff.1 h
    rcases of_get?_apply fits h with ⟨ended, eq⟩ | ⟨begun, eq⟩ | ⟨old, -⟩
    · obtain ⟨j, stored, -⟩ := fits.closing.kept i ended
      exact .inl (IdMap.mem_iff.2 ⟨j, eq ▸ stored⟩)
    · exact .inr ⟨i, begun, eq⟩
    · exact .inl (IdMap.mem_iff.2 ⟨i, old⟩)
  · rintro (h | ⟨i, begun, rfl⟩)
    · obtain ⟨i, h⟩ := IdMap.mem_iff.1 h
      rw [IdMap.mem_def, get?_apply fits, h]
      cases t.resolved.find? (·.id = id) <;> cases t.opened.find? (·.id = id) <;> rfl
    · exact IdMap.mem_iff.2 ⟨i, get?_apply_opened fits begun⟩

theorem newId_of_opened (fits : Fits m t) {i : Incident} (h : i ∈ t.opened) :
    t.newId fresh i.id = fresh i.root := by
  rw [Transition.newId, find?_eq_some_of_nodup fits.opening.ids h]
  rfl

theorem newId_of_mem (fits : Fits m t) {id : IncidentId} (h : id ∈ m) : t.newId fresh id = id := by
  have none : t.opened.find? (·.id = id) = none := by
    refine List.find?_eq_none.2 fun i hi eq ↦ ?_
    have new := fits.opening.new i hi
    rw [of_decide_eq_true eq] at new
    exact IdMap.not_mem_iff.2 new h
  rw [Transition.newId, none]
  rfl

/-- Other ids for new incidents leave the same incidents under other ids. -/
theorem renamed_apply (tidy : Tidy m) (fits : Fits m t) (fits' : Fits m (t.withIds fresh)) :
    Renamed (t.newId fresh) (apply t m) (apply (t.withIds fresh) m) := by
  have opened : ∀ {i}, i ∈ t.opened →
      { i with id := fresh i.root } ∈ (t.withIds fresh).opened :=
    fun h ↦ List.mem_map.2 ⟨_, h, rfl⟩
  have new : ∀ {i}, i ∈ t.opened → fresh i.root ∉ m :=
    fun h ↦ IdMap.not_mem_iff.2 (fits'.opening.new _ (opened h))
  refine ⟨?_, ?_, ?_⟩
  · intro a b ha hb eq
    rcases (mem_apply fits).1 ha with ha | ⟨i, hi, rfl⟩ <;>
      rcases (mem_apply fits).1 hb with hb | ⟨j, hj, rfl⟩
    · rwa [newId_of_mem fits ha, newId_of_mem fits hb] at eq
    · rw [newId_of_mem fits ha, newId_of_opened fits hj] at eq
      exact absurd (eq ▸ ha) (new hj)
    · rw [newId_of_opened fits hi, newId_of_mem fits hb] at eq
      exact absurd (eq ▸ hb) (new hi)
    · rw [newId_of_opened fits hi, newId_of_opened fits hj] at eq
      have same := List.inj_on_of_nodup_map fits'.opening.ids (opened hi) (opened hj) eq
      have root : i.root = j.root := (Incident.mk.inj same).2.1
      rw [List.inj_on_of_nodup_map fits.opening.roots hi hj root]
  · intro id i h
    rcases of_get?_apply fits h with ⟨ended, rfl⟩ | ⟨begun, rfl⟩ | ⟨old, stays⟩
    · obtain ⟨j, stored, -⟩ := fits.closing.kept i ended
      rw [newId_of_mem fits (IdMap.mem_iff.2 ⟨j, stored⟩)]
      exact get?_apply_resolved fits' ended
    · rw [newId_of_opened fits begun]
      exact get?_apply_opened fits' (opened begun)
    · have key : i.id = id := tidy.keyed old
      have kept : id ∈ m := IdMap.mem_iff.2 ⟨i, old⟩
      rw [newId_of_mem fits kept, get?_apply_other fits' stays, old, ← key]
      intro k hk eq
      obtain ⟨j, hj, rfl⟩ := List.mem_map.1 hk
      have same : fresh j.root = id := eq
      exact new hj (same ▸ kept)
  · intro k hk
    rcases (mem_apply fits').1 hk with hk | ⟨j, hj, rfl⟩
    · exact ⟨k, (mem_apply fits).2 (.inl hk), newId_of_mem fits hk⟩
    · obtain ⟨i, hi, rfl⟩ := List.mem_map.1 hj
      exact ⟨i.id, (mem_apply fits).2 (.inr ⟨i, hi, rfl⟩), newId_of_opened fits hi⟩

end Store.IncidentBook

end Cascade
