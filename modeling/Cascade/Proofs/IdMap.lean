import Cascade.IdMap

/-!
# Look-ups in maps that are put together

What the operations of `Cascade.IdMap` that fold over a list do to the look-ups.  `get?_override`
gives the look-ups of one map put over another; `of_get?_ofList` and `mem_ofList` say where the
values of a map come from that was made from a list.

A list may hold the entries of a map in any order (`Lists`); `Lists.ofList_eq` says that the map is
then made from it.
-/

namespace Cascade.IdMap

universe u

variable {α : Type u}

theorem mem_iff {m : IdMap α} {id : Uuid} : id ∈ m ↔ ∃ v, m.get? id = some v :=
  Option.isSome_iff_exists

theorem not_mem_iff {m : IdMap α} {id : Uuid} : id ∉ m ↔ m.get? id = none := by
  rw [mem_def, Bool.not_eq_true, Option.isSome_eq_false_iff, Option.isNone_iff_eq_none]

theorem mem_values {m : IdMap α} {v : α} : v ∈ m.values ↔ ∃ id, m.get? id = some v := by
  rw [values, List.mem_map]
  constructor
  · rintro ⟨⟨k, w⟩, h, rfl⟩
    exact ⟨k, get?_eq_some_iff.2 h⟩
  · rintro ⟨id, h⟩
    exact ⟨(id, v), get?_eq_some_iff.1 h, rfl⟩

theorem nodup_keys (m : IdMap α) : m.keys.Nodup :=
  m.pairwise_keys.imp fun {a b} (lt : a < b) (eq : a = b) ↦ Uuid.lt_irrefl b (eq ▸ lt)

theorem length_keys (m : IdMap α) : m.keys.length = m.size := List.length_map ..

theorem ext_mem {s t : IdSet} (h : ∀ id, id ∈ s ↔ id ∈ t) : s = t := by
  apply ext
  intro id
  have same := h id
  rw [mem_def, mem_def] at same
  cases left : s.get? id <;> cases right : t.get? id <;> simp_all

theorem mem_add {s : IdSet} {id k : Uuid} : k ∈ s.add id ↔ id = k ∨ k ∈ s := by
  rw [mem_def, add, get?_insert]
  by_cases h : id = k
  · simp [h]
  · rw [if_neg h]
    exact ⟨.inr, fun g ↦ g.resolve_left h⟩

/-! ### Entries put over a map one by one -/

/-- The value of an id after entries were put over a map: that of its entry, if there is one. -/
theorem get?_foldl_insert {l : List (Uuid × α)} (sorted : l.Pairwise (·.1 < ·.1)) (m : IdMap α)
    (id : Uuid) :
    (l.foldl (fun m e ↦ m.insert e.1 e.2) m).get? id = (find id l).or (m.get? id) := by
  induction l generalizing m with
  | nil => rfl
  | cons e l ih =>
    obtain ⟨k, v⟩ := e
    have ⟨above, tail⟩ := List.pairwise_cons.1 sorted
    rw [List.foldl_cons, ih tail, find, get?_insert]
    by_cases h : k = id
    · subst h
      rw [find_eq_none_of_lt above, if_pos rfl, if_pos rfl]
      rfl
    · rw [if_neg h, if_neg h]

/-- A map put over another hides the values of its ids and no others. -/
@[simp] theorem get?_override (m n : IdMap α) (id : Uuid) :
    (m.override n).get? id = (n.get? id).or (m.get? id) :=
  get?_foldl_insert n.sorted m id

/-- A map put over another hides all of it if it has all its ids. -/
theorem override_eq_right {m n : IdMap α} (h : ∀ id, id ∈ m → id ∈ n) : m.override n = n := by
  apply ext
  intro id
  rw [get?_override]
  cases own : n.get? id with
  | some v => rfl
  | none =>
    have absent : id ∉ m := fun mem ↦ not_mem_iff.2 own (h id mem)
    rw [not_mem_iff.1 absent]
    rfl

/-- Every value of a map made by putting entries over another comes from the one or the other. -/
theorem of_get?_foldl_insert {l : List (Uuid × α)} {m : IdMap α} {id : Uuid} {v : α}
    (h : (l.foldl (fun m e ↦ m.insert e.1 e.2) m).get? id = some v) :
    (id, v) ∈ l ∨ m.get? id = some v := by
  induction l generalizing m with
  | nil => exact .inr h
  | cons e l ih =>
    obtain ⟨k, w⟩ := e
    rcases ih h with mem | old
    · exact .inl (List.mem_cons_of_mem _ mem)
    · rw [get?_insert] at old
      split at old
      · rename_i eq
        cases eq; cases old
        exact .inl List.mem_cons_self
      · exact .inr old

/-- The ids of a map made by putting entries over another. -/
theorem mem_foldl_insert {l : List (Uuid × α)} {m : IdMap α} {id : Uuid} :
    id ∈ l.foldl (fun m e ↦ m.insert e.1 e.2) m ↔ (∃ v, (id, v) ∈ l) ∨ id ∈ m := by
  induction l generalizing m with
  | nil => simp
  | cons e l ih =>
    obtain ⟨k, w⟩ := e
    rw [List.foldl_cons, ih, mem_def (m := m.insert _ _), get?_insert]
    by_cases h : k = id
    · subst h
      simp only [List.mem_cons, if_true, Option.isSome_some, or_true, true_iff]
      exact .inl ⟨w, .inl rfl⟩
    · simp [h, Ne.symm h, mem_def]

theorem of_get?_ofList {l : List (Uuid × α)} {id : Uuid} {v : α}
    (h : (ofList l).get? id = some v) : (id, v) ∈ l :=
  (of_get?_foldl_insert h).resolve_right (by simp)

theorem mem_ofList {l : List (Uuid × α)} {id : Uuid} : id ∈ ofList l ↔ ∃ v, (id, v) ∈ l := by
  rw [ofList, mem_foldl_insert]
  simp [mem_def]

theorem mem_setOf {ids : List Uuid} {id : Uuid} : id ∈ setOf ids ↔ id ∈ ids := by
  rw [setOf, mem_ofList]
  simp

theorem isEmpty_setOf (ids : List Uuid) : (setOf ids).isEmpty = ids.isEmpty := by
  have keys : (setOf ids).keys.isEmpty = (setOf ids).isEmpty := List.isEmpty_map
  rw [← keys, Bool.eq_iff_iff, List.isEmpty_iff, List.isEmpty_iff,
    List.eq_nil_iff_forall_not_mem, List.eq_nil_iff_forall_not_mem]
  simp only [mem_keys, mem_setOf]

/-! ### Values set for a list of ids -/

/-- The value of an id after the ids of a list were each given their value. -/
theorem get?_foldl_insert_of (f : Uuid → α) (l : List Uuid) (m : IdMap α) (id : Uuid) :
    (l.foldl (fun m k ↦ m.insert k (f k)) m).get? id =
      if id ∈ l then some (f id) else m.get? id := by
  induction l generalizing m with
  | nil => simp
  | cons k l ih =>
    rw [List.foldl_cons, ih, get?_insert]
    by_cases h : id ∈ l
    · simp [h]
    · by_cases e : k = id
      · simp [h, e]
      · simp [h, e, Ne.symm e]

/-! ### Entries in any order -/

/-- Where a list has one value for each id, a map made from it has these values. -/
theorem get?_ofList_iff {l : List (Uuid × α)}
    (single : ∀ {id v w}, (id, v) ∈ l → (id, w) ∈ l → v = w) {id : Uuid} {v : α} :
    (ofList l).get? id = some v ↔ (id, v) ∈ l := by
  constructor
  · exact of_get?_ofList
  · intro mem
    obtain ⟨w, found⟩ := mem_iff.1 (mem_ofList.2 ⟨v, mem⟩)
    rw [found, single mem (of_get?_ofList found)]

/-- A list holds the entries of a map, each once and in any order. -/
structure Lists (l : List (Uuid × α)) (m : IdMap α) : Prop where
  nodup : (l.map (·.1)).Nodup
  get?_iff : ∀ {id v}, m.get? id = some v ↔ (id, v) ∈ l

namespace Lists

variable {l : List (Uuid × α)} {m : IdMap α} {id : Uuid} {v : α}

theorem empty : Lists [] (∅ : IdMap α) := ⟨List.nodup_nil, by simp⟩

theorem mem_iff (h : Lists l m) : id ∈ m ↔ ∃ e ∈ l, e.1 = id := by
  rw [IdMap.mem_iff]
  constructor
  · rintro ⟨v, found⟩
    exact ⟨(id, v), h.get?_iff.1 found, rfl⟩
  · rintro ⟨⟨k, v⟩, mem, rfl⟩
    exact ⟨v, h.get?_iff.2 mem⟩

/-- A map whose entries a list holds is made from that list. -/
theorem ofList_eq (h : Lists l m) : ofList l = m := by
  apply ext
  intro id
  apply Option.ext
  intro v
  rw [h.get?_iff]
  refine get?_ofList_iff fun {id v w} hv hw ↦ ?_
  have same := (h.get?_iff.2 hv).symm.trans (h.get?_iff.2 hw)
  exact Option.some.inj same

/-- A new entry stands last. -/
theorem snoc (h : Lists l m) (new : id ∉ m) : Lists (l ++ [(id, v)]) (m.insert id v) where
  nodup := by
    rw [List.map_append, List.nodup_append]
    refine ⟨h.nodup, List.pairwise_singleton .., ?_⟩
    intro k hk k' hk' eq
    obtain ⟨e, mem, rfl⟩ := List.mem_map.1 hk
    have last : e.1 = id := eq.trans (List.mem_singleton.1 hk')
    exact new (h.mem_iff.2 ⟨e, mem, last⟩)
  get?_iff {k w} := by
    rw [get?_insert, List.mem_append, List.mem_singleton, Prod.mk.injEq, ← h.get?_iff]
    by_cases eq : id = k
    · subst eq
      simp [not_mem_iff.1 new, eq_comm]
    · simp [eq, Ne.symm eq]

/-- The value of a known id is set in its place. -/
theorem put (h : Lists l m) (known : id ∈ m) :
    Lists (l.map fun e ↦ if e.1 = id then (id, v) else e) (m.insert id v) where
  nodup := by
    have same : (l.map fun e ↦ if e.1 = id then (id, v) else e).map (·.1) = l.map (·.1) := by
      rw [List.map_map]
      refine List.map_congr_left fun e _ ↦ ?_
      by_cases eq : e.1 = id
      · simp [eq]
      · simp [eq]
    exact same ▸ h.nodup
  get?_iff {k w} := by
    rw [get?_insert, List.mem_map]
    by_cases eq : id = k
    · subst eq
      obtain ⟨e, mem, own⟩ := h.mem_iff.1 known
      constructor
      · intro set
        cases set.symm.trans (if_pos rfl)
        exact ⟨e, mem, if_pos own⟩
      · rintro ⟨e', -, eq⟩
        split at eq
        · cases eq
          exact if_pos rfl
        · rename_i other
          exact absurd (congrArg Prod.fst eq) other
    · rw [if_neg eq, h.get?_iff]
      constructor
      · intro mem
        exact ⟨(k, w), mem, if_neg (Ne.symm eq)⟩
      · rintro ⟨e', mem, same⟩
        split at same
        · exact absurd (congrArg Prod.fst same) eq
        · exact same ▸ mem

end Lists

end Cascade.IdMap
