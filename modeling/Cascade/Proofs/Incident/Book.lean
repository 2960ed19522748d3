import Cascade.Proofs.IdMap
import Cascade.Store.Memory
import Mathlib.Data.List.Nodup

/-!
# What a transition does to the incidents

A book of incidents is tidy if it files each incident under its own id and has at most one open
incident for each root.  Opening and ending incidents keeps it so, whether or not it takes them
(`Tidy.addOpened`, `Tidy.putResolved`).

A transition fits a book if it opens incidents of new ids for roots without an open incident, and
ends incidents that are open.  `get?_apply` gives the incidents after a transition that fits,
`Tidy.apply` says that they are tidy again, and `hasOpen_apply` which roots then have an open
incident.
-/

namespace Cascade.Store.IncidentBook

variable {m : IdMap Incident} {t : Transition}

theorem hasOpen_iff {root : ComponentId} :
    hasOpen m root = true ↔ ∃ id i, m.get? id = some i ∧ i.isOpen = true ∧ i.root = root := by
  simp only [hasOpen, List.any_eq_true, IdMap.mem_values, Bool.and_eq_true, decide_eq_true_eq]
  constructor
  · rintro ⟨i, ⟨id, h⟩, open_, eq⟩
    exact ⟨id, i, h, open_, eq⟩
  · rintro ⟨id, i, h, open_, eq⟩
    exact ⟨i, ⟨id, h⟩, open_, eq⟩

/-! ### Active incidents -/

/-- An active incident is kept, open, and filed under its root. -/
theorem of_active {b : IncidentBook} {c : ComponentId} {i : Incident}
    (h : b.active.get? c = some i) :
    (∃ id, b.incidents.get? id = some i) ∧ i.isOpen = true ∧ i.root = c := by
  obtain ⟨j, hj, eq⟩ := List.mem_map.1 (IdMap.of_get?_ofList h)
  cases eq
  obtain ⟨kept, open_⟩ := List.mem_filter.1 hj
  exact ⟨IdMap.mem_values.1 kept, open_, rfl⟩

/-- The active incidents are those of the roots with an open incident. -/
theorem mem_active {b : IncidentBook} {c : ComponentId} :
    c ∈ b.active ↔ hasOpen b.incidents c = true := by
  rw [active, IdMap.mem_ofList, hasOpen_iff]
  constructor
  · rintro ⟨i, h⟩
    obtain ⟨j, hj, eq⟩ := List.mem_map.1 h
    cases eq
    obtain ⟨kept, open_⟩ := List.mem_filter.1 hj
    obtain ⟨id, h⟩ := IdMap.mem_values.1 kept
    exact ⟨id, i, h, open_, rfl⟩
  · rintro ⟨id, i, h, open_, rfl⟩
    exact ⟨i, List.mem_map.2 ⟨i, List.mem_filter.2 ⟨IdMap.mem_values.2 ⟨id, h⟩, open_⟩, rfl⟩⟩

theorem active_congr {b b' : IncidentBook} (h : b.incidents = b'.incidents) :
    b.active = b'.active := by
  rw [active, active, h]

/-- Each incident stands under its own id, and each root has at most one that is open. -/
structure Tidy (m : IdMap Incident) : Prop where
  /-- Every incident stands under its own id. -/
  keyed : ∀ {id i}, m.get? id = some i → i.id = id
  /-- Open incidents of one root are one. -/
  unique : ∀ {a b i j}, m.get? a = some i → m.get? b = some j → i.isOpen = true →
    j.isOpen = true → i.root = j.root → i = j

/-- In a tidy book an open incident is the active one of its root. -/
theorem Tidy.active_of_open {b : IncidentBook} (tidy : Tidy b.incidents) {id : IncidentId}
    {i : Incident} (h : b.incidents.get? id = some i) (open_ : i.isOpen = true) :
    b.active.get? i.root = some i := by
  obtain ⟨j, hj⟩ := IdMap.mem_iff.1 (mem_active.2 (hasOpen_iff.2 ⟨id, i, h, open_, rfl⟩))
  obtain ⟨⟨k, hk⟩, open', root⟩ := of_active hj
  rw [hj, tidy.unique hk h open' open_ root]

/-- In a tidy book the active incidents are the open ones. -/
theorem Tidy.get?_active {b : IncidentBook} (tidy : Tidy b.incidents) {c : ComponentId}
    {i : Incident} :
    b.active.get? c = some i ↔ b.incidents.get? i.id = some i ∧ i.isOpen = true ∧ i.root = c := by
  constructor
  · intro h
    obtain ⟨⟨id, stored⟩, open_, root⟩ := of_active h
    have key : i.id = id := tidy.keyed stored
    exact ⟨key ▸ stored, open_, root⟩
  · rintro ⟨stored, open_, rfl⟩
    exact tidy.active_of_open stored open_

theorem Tidy.single (tidy : Tidy m) {a b : IncidentId} {i j : Incident} (hi : m.get? a = some i)
    (hj : m.get? b = some j) (openi : i.isOpen = true) (openj : j.isOpen = true)
    (root : i.root = j.root) : a = b := by
  have keyi : i.id = a := tidy.keyed hi
  have keyj : j.id = b := tidy.keyed hj
  rw [← keyi, ← keyj, tidy.unique hi hj openi openj root]

/-! ### Opening and ending incidents one by one -/

theorem ne_of_nodup_map {β : Type} {f : Incident → β} {i j : Incident} {l : List Incident}
    (nodup : ((i :: l).map f).Nodup) (hj : j ∈ l) : f i ≠ f j := by
  intro eq
  obtain ⟨absent, -⟩ := List.nodup_cons.1 nodup
  exact absent (List.mem_map.2 ⟨j, hj, eq.symm⟩)

theorem find?_eq_none_of_nodup {i : Incident} {l : List Incident}
    (nodup : ((i :: l).map (·.id)).Nodup) : l.find? (·.id = i.id) = none :=
  List.find?_eq_none.2 fun _ hj eq ↦ ne_of_nodup_map nodup hj (of_decide_eq_true eq).symm

theorem of_find? {l : List Incident} {id : IncidentId} {i : Incident}
    (h : l.find? (·.id = id) = some i) : i ∈ l ∧ i.id = id :=
  ⟨List.mem_of_find?_eq_some h, by simpa using List.find?_some h⟩

theorem find?_eq_some_of_nodup {i : Incident} {l : List Incident} (nodup : (l.map (·.id)).Nodup)
    (h : i ∈ l) : l.find? (·.id = i.id) = some i := by
  cases found : l.find? (·.id = i.id) with
  | none => exact absurd (decide_eq_true rfl) (List.find?_eq_none.1 found i h)
  | some j =>
    obtain ⟨mem, eq⟩ := of_find? found
    rw [List.inj_on_of_nodup_map nodup mem h eq]

/-- Incidents that can all be opened. -/
structure Opening (m : IdMap Incident) (l : List Incident) : Prop where
  roots : (l.map (·.root)).Nodup
  ids : (l.map (·.id)).Nodup
  /-- None of their roots has an open incident. -/
  free : ∀ i ∈ l, hasOpen m i.root = false
  /-- None of their ids is known. -/
  new : ∀ i ∈ l, m.get? i.id = none
  isOpen : ∀ i ∈ l, i.isOpen = true

theorem Opening.tail {i : Incident} {l : List Incident} (h : Opening m (i :: l)) :
    Opening (m.insert i.id i) l := by
  refine ⟨h.roots.of_cons, h.ids.of_cons, ?_, ?_,
    fun j hj ↦ h.isOpen j (List.mem_cons_of_mem _ hj)⟩
  · intro j hj
    refine Bool.eq_false_iff.2 fun some_ ↦ ?_
    obtain ⟨k, x, hx, open_, eq⟩ := hasOpen_iff.1 some_
    rw [IdMap.get?_insert] at hx
    split at hx
    · cases hx
      exact ne_of_nodup_map h.roots hj eq
    · exact Bool.eq_false_iff.1 (h.free j (List.mem_cons_of_mem _ hj))
        (hasOpen_iff.2 ⟨k, x, hx, open_, eq⟩)
  · intro j hj
    rw [IdMap.get?_insert, if_neg (ne_of_nodup_map h.ids hj)]
    exact h.new j (List.mem_cons_of_mem _ hj)

/-- Opening incidents adds them and leaves the others as they are. -/
theorem get?_foldl_addOpened {l : List Incident} (h : Opening m l) (id : IncidentId) :
    (l.foldl addOpened m).get? id = (l.find? (·.id = id)).or (m.get? id) := by
  induction l generalizing m with
  | nil => rfl
  | cons i l ih =>
    have free : hasOpen m i.root = false := h.free i List.mem_cons_self
    have new : m.contains i.id = false := by
      rw [IdMap.contains, h.new i List.mem_cons_self]
      rfl
    have added : addOpened m i = m.insert i.id i := by
      rw [addOpened, free, new]
      rfl
    rw [List.foldl_cons, added, ih h.tail, IdMap.get?_insert, List.find?_cons]
    by_cases eq : i.id = id
    · subst eq
      simp [find?_eq_none_of_nodup h.ids]
    · simp [eq]

/-- Incidents that can all be ended. -/
structure Closing (m : IdMap Incident) (l : List Incident) : Prop where
  ids : (l.map (·.id)).Nodup
  /-- They are kept as open ones. -/
  kept : ∀ i ∈ l, ∃ j, m.get? i.id = some j ∧ j.isOpen = true
  isOver : ∀ i ∈ l, i.isOpen = false

theorem Closing.tail {i : Incident} {l : List Incident} (h : Closing m (i :: l)) :
    Closing (m.insert i.id i) l := by
  refine ⟨h.ids.of_cons, ?_, fun j hj ↦ h.isOver j (List.mem_cons_of_mem _ hj)⟩
  intro j hj
  rw [IdMap.get?_insert, if_neg (ne_of_nodup_map h.ids hj)]
  exact h.kept j (List.mem_cons_of_mem _ hj)

/-- Ending incidents puts them in their places and leaves the others as they are. -/
theorem get?_foldl_putResolved {l : List Incident} (h : Closing m l) (id : IncidentId) :
    (l.foldl putResolved m).get? id = (l.find? (·.id = id)).or (m.get? id) := by
  induction l generalizing m with
  | nil => rfl
  | cons i l ih =>
    obtain ⟨j, stored, open_⟩ := h.kept i List.mem_cons_self
    have put : putResolved m i = m.insert i.id i := by
      rw [putResolved, stored]
      exact if_pos open_
    rw [List.foldl_cons, put, ih h.tail, IdMap.get?_insert, List.find?_cons]
    by_cases eq : i.id = id
    · subst eq
      simp [find?_eq_none_of_nodup h.ids]
    · simp [eq]

/-! ### Incidents that open or end whether or not they can -/

theorem of_get?_foldl_addOpened {l : List Incident} {id : IncidentId} {i : Incident}
    (h : (l.foldl addOpened m).get? id = some i) : m.get? id = some i ∨ i ∈ l := by
  induction l generalizing m with
  | nil => exact .inl h
  | cons j l ih =>
    rcases ih h with old | new
    · rw [addOpened] at old
      split at old
      · exact .inl old
      · rw [IdMap.get?_insert] at old
        split at old
        · cases old
          exact .inr List.mem_cons_self
        · exact .inl old
    · exact .inr (List.mem_cons_of_mem _ new)

/-- An incident that is open after others ended was open before, and is none of them. -/
theorem of_get?_foldl_putResolved {l : List Incident} {id : IncidentId} {i : Incident}
    (isOver : ∀ k ∈ l, k.isOpen = false) (h : (l.foldl putResolved m).get? id = some i)
    (open_ : i.isOpen = true) : m.get? id = some i ∧ ∀ k ∈ l, k.id ≠ id := by
  induction l generalizing m with
  | nil => exact ⟨h, fun k hk ↦ absurd hk List.not_mem_nil⟩
  | cons j l ih =>
    obtain ⟨ended, isOver⟩ := List.forall_mem_cons.1 isOver
    obtain ⟨old, others⟩ := ih isOver h
    have stays : m.get? id = some i ∧ j.id ≠ id := by
      rw [putResolved] at old
      cases stored : m.get? j.id with
      | none =>
        rw [stored] at old
        refine ⟨old, fun eq ↦ ?_⟩
        rw [← eq, stored] at old
        cases old
      | some k =>
        rw [stored] at old
        dsimp only at old
        split at old
        · rw [IdMap.get?_insert] at old
          split at old
          · cases old
            rw [ended] at open_
            cases open_
          · rename_i ne
            exact ⟨old, ne⟩
        · rename_i closed
          refine ⟨old, fun eq ↦ ?_⟩
          rw [← eq, stored] at old
          cases old
          exact closed open_
    exact ⟨stays.1, List.forall_mem_cons.2 ⟨stays.2, others⟩⟩

/-- An incident that is open after a transition is one of its new ones, or was open before and is
none of those that end. -/
theorem of_open_apply (isOver : ∀ k ∈ t.resolved, k.isOpen = false) {id : IncidentId} {i : Incident}
    (h : (apply t m).get? id = some i) (open_ : i.isOpen = true) :
    i ∈ t.opened ∨ m.get? id = some i ∧ ∀ k ∈ t.resolved, k.id ≠ id := by
  obtain ⟨old, others⟩ := of_get?_foldl_putResolved isOver h open_
  rcases of_get?_foldl_addOpened old with old | new
  · exact .inr ⟨old, others⟩
  · exact .inl new

/-- A book stays tidy if an incident is filed that is over or whose root has no open one. -/
theorem Tidy.insert {i : Incident} (tidy : Tidy m)
    (free : i.isOpen = true → hasOpen m i.root = false) : Tidy (m.insert i.id i) := by
  -- an open incident that was there before has another root
  have apart : ∀ {id j}, m.get? id = some j → i.isOpen = true → j.isOpen = true →
      i.root ≠ j.root := by
    intro id j old openi openj eq
    exact Bool.eq_false_iff.1 (free openi) (hasOpen_iff.2 ⟨id, j, old, openj, eq.symm⟩)
  refine ⟨?_, ?_⟩
  · intro id j h
    rw [IdMap.get?_insert] at h
    split at h
    · rename_i own
      cases h
      exact own
    · exact tidy.keyed h
  · intro a b j k hj hk openj openk eq
    rw [IdMap.get?_insert] at hj hk
    split at hj <;> split at hk
    · cases hj
      cases hk
      rfl
    · cases hj
      exact absurd eq (apart hk openj openk)
    · cases hk
      exact absurd eq.symm (apart hj openk openj)
    · exact tidy.unique hj hk openj openk eq

theorem Tidy.addOpened {i : Incident} (tidy : Tidy m) : Tidy (addOpened m i) := by
  rw [IncidentBook.addOpened]
  split
  · exact tidy
  · rename_i new
    rw [Bool.or_eq_true, not_or, Bool.not_eq_true] at new
    exact tidy.insert fun _ ↦ new.1

theorem Tidy.putResolved {i : Incident} (tidy : Tidy m) (isOver : i.isOpen = false) :
    Tidy (putResolved m i) := by
  rw [IncidentBook.putResolved]
  split
  · exact tidy
  · split
    · refine tidy.insert fun open_ ↦ ?_
      rw [isOver] at open_
      cases open_
    · exact tidy

/-! ### Transitions -/

theorem save_none (b : IncidentBook) : b.save .none = b := rfl

/-- A transition that opens what can be opened and ends what can be ended. -/
structure Fits (m : IdMap Incident) (t : Transition) : Prop where
  opening : Opening m t.opened
  closing : Closing m t.resolved

variable {id : IncidentId} {i : Incident}

/-- After a transition that fits, its incidents stand as it has them and the others as before. -/
theorem get?_apply (fits : Fits m t) (id : IncidentId) :
    (apply t m).get? id =
      ((t.resolved.find? (·.id = id)).or (t.opened.find? (·.id = id))).or (m.get? id) := by
  have closing : Closing (t.opened.foldl addOpened m) t.resolved := by
    refine ⟨fits.closing.ids, ?_, fits.closing.isOver⟩
    intro i hi
    obtain ⟨j, stored, open_⟩ := fits.closing.kept i hi
    have none : t.opened.find? (·.id = i.id) = none := by
      refine List.find?_eq_none.2 fun k hk eq ↦ ?_
      have new := fits.opening.new k hk
      rw [of_decide_eq_true eq, stored] at new
      cases new
    exact ⟨j, by rw [get?_foldl_addOpened fits.opening, none]; exact stored, open_⟩
  rw [apply, get?_foldl_putResolved closing, get?_foldl_addOpened fits.opening, Option.or_assoc]

/-- Where an incident after a transition comes from. -/
theorem of_get?_apply (fits : Fits m t) (h : (apply t m).get? id = some i) :
    (i ∈ t.resolved ∧ i.id = id) ∨ (i ∈ t.opened ∧ i.id = id) ∨
      (m.get? id = some i ∧ ∀ k ∈ t.resolved, k.id ≠ id) := by
  rw [get?_apply fits] at h
  cases ended : t.resolved.find? (·.id = id) with
  | some j =>
    simp only [ended, Option.some_or, Option.some.injEq] at h
    subst h
    exact .inl (of_find? ended)
  | none =>
    cases begun : t.opened.find? (·.id = id) with
    | some j =>
      simp only [ended, begun, Option.none_or, Option.some_or, Option.some.injEq] at h
      subst h
      exact .inr (.inl (of_find? begun))
    | none =>
      simp only [ended, begun, Option.none_or] at h
      refine .inr (.inr ⟨h, fun k hk eq ↦ ?_⟩)
      exact List.find?_eq_none.1 ended k hk (decide_eq_true eq)

/-- An ended incident stands as it ended. -/
theorem get?_apply_resolved (fits : Fits m t) (h : i ∈ t.resolved) :
    (apply t m).get? i.id = some i := by
  rw [get?_apply fits, find?_eq_some_of_nodup fits.closing.ids h]
  rfl

/-- A new incident stands as it opened. -/
theorem get?_apply_opened (fits : Fits m t) (h : i ∈ t.opened) :
    (apply t m).get? i.id = some i := by
  have none : t.resolved.find? (·.id = i.id) = none := by
    refine List.find?_eq_none.2 fun k hk eq ↦ ?_
    obtain ⟨j, stored, -⟩ := fits.closing.kept k hk
    rw [of_decide_eq_true eq, fits.opening.new i h] at stored
    cases stored
  rw [get?_apply fits, none, find?_eq_some_of_nodup fits.opening.ids h]
  rfl

/-- The other incidents stand as before. -/
theorem get?_apply_other (fits : Fits m t) (ended : ∀ k ∈ t.resolved, k.id ≠ id)
    (begun : ∀ k ∈ t.opened, k.id ≠ id) : (apply t m).get? id = m.get? id := by
  rw [get?_apply fits, List.find?_eq_none.2 fun k hk eq ↦ ended k hk (of_decide_eq_true eq),
    List.find?_eq_none.2 fun k hk eq ↦ begun k hk (of_decide_eq_true eq)]
  rfl

theorem Tidy.apply (tidy : Tidy m) (fits : Fits m t) : Tidy (apply t m) := by
  have opened : Tidy (t.opened.foldl IncidentBook.addOpened m) :=
    List.foldlRecOn (motive := Tidy) _ _ tidy fun _ tidy _ _ ↦ tidy.addOpened
  exact List.foldlRecOn (motive := Tidy) _ _ opened fun _ tidy i hi ↦
    tidy.putResolved (fits.closing.isOver i hi)

/-- The roots with an open incident after a transition that fits: those of its new incidents, and
those that had one which did not end. -/
theorem hasOpen_apply (fits : Fits m t) {root : ComponentId} :
    hasOpen (apply t m) root = true ↔ (∃ i ∈ t.opened, i.root = root) ∨
      ∃ id i, m.get? id = some i ∧ i.isOpen = true ∧ i.root = root ∧
        ∀ k ∈ t.resolved, k.id ≠ id := by
  rw [hasOpen_iff]
  constructor
  · rintro ⟨id, i, h, open_, eq⟩
    rcases of_get?_apply fits h with ⟨mem, -⟩ | ⟨mem, -⟩ | ⟨old, stays⟩
    · exact absurd open_ (Bool.eq_false_iff.1 (fits.closing.isOver i mem))
    · exact .inl ⟨i, mem, eq⟩
    · exact .inr ⟨id, i, old, open_, eq, stays⟩
  · rintro (⟨i, mem, eq⟩ | ⟨id, i, old, open_, eq, stays⟩)
    · exact ⟨i.id, i, get?_apply_opened fits mem, fits.opening.isOpen i mem, eq⟩
    · refine ⟨id, i, ?_, open_, eq⟩
      rw [get?_apply_other fits stays, old]
      intro k hk eq
      have new := fits.opening.new k hk
      rw [eq, old] at new
      cases new

/-- The active incidents after a transition that fits: its new ones, and those before it that did
not end. -/
theorem get?_active_save {b : IncidentBook} (tidy : Tidy b.incidents) (fits : Fits b.incidents t)
    {c : ComponentId} : (b.save t).active.get? c = some i ↔ (i ∈ t.opened ∧ i.root = c) ∨
      b.active.get? c = some i ∧ ∀ k ∈ t.resolved, k.id ≠ i.id := by
  have after : Tidy (b.save t).incidents := tidy.apply fits
  rw [after.get?_active, tidy.get?_active]
  constructor
  · rintro ⟨stored, open_, root⟩
    rcases of_get?_apply fits stored with ⟨mem, -⟩ | ⟨mem, -⟩ | ⟨old, stays⟩
    · exact absurd open_ (Bool.eq_false_iff.1 (fits.closing.isOver i mem))
    · exact .inl ⟨mem, root⟩
    · exact .inr ⟨⟨old, open_, root⟩, stays⟩
  · rintro (⟨mem, root⟩ | ⟨⟨old, open_, root⟩, stays⟩)
    · exact ⟨get?_apply_opened fits mem, fits.opening.isOpen i mem, root⟩
    · refine ⟨?_, open_, root⟩
      have others : ∀ k ∈ t.opened, k.id ≠ i.id := by
        intro k hk eq
        have new := fits.opening.new k hk
        rw [eq, old] at new
        cases new
      exact (get?_apply_other fits stays others).trans old

end Cascade.Store.IncidentBook
