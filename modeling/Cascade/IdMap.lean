import Cascade.Uuid

/-!
# Finite maps keyed by id

A map is the list of its entries in id order, each id at most once.  The order is part of the
type, so two maps with the same look-ups are equal (`IdMap.ext`) and whatever walks over a map
walks in id order.

`get?_insert` says what setting a value does to the look-ups.
-/

namespace Cascade

universe u v

/-- A finite map from ids, as its entries in id order. -/
structure IdMap (α : Type u) where
  entries : List (Uuid × α)
  sorted : entries.Pairwise (·.1 < ·.1)

abbrev IdSet := IdMap Unit

namespace IdMap

variable {α : Type u} {β : Type v}

def empty : IdMap α := ⟨[], .nil⟩

instance : EmptyCollection (IdMap α) := ⟨empty⟩

instance : Inhabited (IdMap α) := ⟨empty⟩

instance [DecidableEq α] : DecidableEq (IdMap α) := fun a b ↦
  decidable_of_iff (a.entries = b.entries)
    ⟨fun h ↦ by cases a; cases b; cases h; rfl, fun h ↦ h ▸ rfl⟩

/-- The value that a list of entries holds for an id. -/
def find (id : Uuid) : List (Uuid × α) → Option α
  | [] => none
  | (k, v) :: rest => if k = id then some v else find id rest

def get? (m : IdMap α) (id : Uuid) : Option α := find id m.entries

def contains (m : IdMap α) (id : Uuid) : Bool := (m.get? id).isSome

def keys (m : IdMap α) : List Uuid := m.entries.map (·.1)

def values (m : IdMap α) : List α := m.entries.map (·.2)

def size (m : IdMap α) : Nat := m.entries.length

def isEmpty (m : IdMap α) : Bool := m.entries.isEmpty

instance : Membership Uuid (IdMap α) := ⟨fun m id ↦ (m.get? id).isSome = true⟩

instance (m : IdMap α) (id : Uuid) : Decidable (id ∈ m) :=
  inferInstanceAs (Decidable ((m.get? id).isSome = true))

theorem mem_def {m : IdMap α} {id : Uuid} : id ∈ m ↔ (m.get? id).isSome = true := Iff.rfl

/-- The entries with the value of an id set, at its place in the order. -/
def insertEntry (id : Uuid) (v : α) : List (Uuid × α) → List (Uuid × α)
  | [] => [(id, v)]
  | (k, w) :: rest =>
    if id < k then (id, v) :: (k, w) :: rest
    else if id = k then (id, v) :: rest
    else (k, w) :: insertEntry id v rest

theorem mem_insertEntry {id : Uuid} {v : α} {e : Uuid × α} {l : List (Uuid × α)}
    (h : e ∈ insertEntry id v l) : e = (id, v) ∨ e ∈ l := by
  induction l with
  | nil => simpa [insertEntry] using h
  | cons p rest ih =>
    obtain ⟨k, w⟩ := p
    rw [insertEntry] at h
    split at h
    · simpa using h
    · split at h
      · rcases List.mem_cons.1 h with h | h
        · exact .inl h
        · exact .inr (List.mem_cons_of_mem _ h)
      · rcases List.mem_cons.1 h with h | h
        · exact .inr (h ▸ List.mem_cons_self)
        · exact (ih h).imp (fun eq ↦ eq) (List.mem_cons_of_mem _)

theorem pairwise_insertEntry {id : Uuid} {v : α} {l : List (Uuid × α)}
    (h : l.Pairwise (·.1 < ·.1)) : (insertEntry id v l).Pairwise (·.1 < ·.1) := by
  induction l with
  | nil => simp [insertEntry]
  | cons p rest ih =>
    obtain ⟨k, w⟩ := p
    have ⟨above, tail⟩ := List.pairwise_cons.1 h
    rw [insertEntry]
    split
    · rename_i lt
      refine List.pairwise_cons.2 ⟨fun e he ↦ ?_, h⟩
      rcases List.mem_cons.1 he with rfl | he
      · exact lt
      · exact Uuid.lt_trans lt (above e he)
    · split
      · rename_i _ eq
        subst eq
        exact List.pairwise_cons.2 ⟨above, tail⟩
      · rename_i nlt ne
        refine List.pairwise_cons.2 ⟨fun e he ↦ ?_, ih tail⟩
        rcases mem_insertEntry he with rfl | he
        · exact (Uuid.lt_or_lt_of_ne ne).resolve_left nlt
        · exact above e he

def insert (m : IdMap α) (id : Uuid) (v : α) : IdMap α :=
  ⟨insertEntry id v m.entries, pairwise_insertEntry m.sorted⟩

theorem find_eq_none_of_lt {id : Uuid} {l : List (Uuid × α)} (h : ∀ e ∈ l, id < e.1) :
    find id l = none := by
  induction l with
  | nil => rfl
  | cons p rest ih =>
    have lt := h p List.mem_cons_self
    have ne : p.1 ≠ id := fun eq ↦ Uuid.lt_irrefl id (by simpa [eq] using lt)
    rw [find, if_neg ne]
    exact ih fun e he ↦ h e (List.mem_cons_of_mem _ he)

theorem find_insertEntry (id : Uuid) (v : α) (l : List (Uuid × α)) (k : Uuid) :
    find k (insertEntry id v l) = if id = k then some v else find k l := by
  induction l with
  | nil => simp [insertEntry, find]
  | cons p rest ih =>
    obtain ⟨j, w⟩ := p
    rw [insertEntry]
    split
    · simp [find]
    · split
      · rename_i _ eq
        subst eq
        by_cases h : id = k <;> simp [find, h]
      · rename_i _ ne
        by_cases h : id = k
        · subst h
          simp [find, Ne.symm ne, ih]
        · simp only [find, ih, h, if_false]

/-- After a value is set, its id has that value and every other id has the value it had. -/
@[simp] theorem get?_insert (m : IdMap α) (id : Uuid) (v : α) (k : Uuid) :
    (m.insert id v).get? k = if id = k then some v else m.get? k :=
  find_insertEntry id v m.entries k

@[simp] theorem get?_empty (id : Uuid) : (∅ : IdMap α).get? id = none := rfl

/-- A value is found exactly where the entry stands. -/
theorem find_eq_some_iff {l : List (Uuid × α)} (h : l.Pairwise (·.1 < ·.1)) {id : Uuid} {v : α} :
    find id l = some v ↔ (id, v) ∈ l := by
  induction l with
  | nil => simp [find]
  | cons p rest ih =>
    obtain ⟨k, w⟩ := p
    have ⟨above, tail⟩ := List.pairwise_cons.1 h
    rw [find]
    split
    · rename_i eq
      subst eq
      constructor
      · intro h; cases h; exact List.mem_cons_self
      · intro h
        rcases List.mem_cons.1 h with h | h
        · cases h; rfl
        · exact absurd (above _ h) (Uuid.lt_irrefl k)
    · rename_i ne
      rw [ih tail, List.mem_cons]
      refine ⟨.inr, fun h ↦ h.resolve_left fun eq ↦ ne ?_⟩
      cases eq; rfl

theorem get?_eq_some_iff {m : IdMap α} {id : Uuid} {v : α} :
    m.get? id = some v ↔ (id, v) ∈ m.entries := find_eq_some_iff m.sorted

theorem mem_keys {m : IdMap α} {id : Uuid} : id ∈ m.keys ↔ id ∈ m := by
  rw [mem_def, Option.isSome_iff_exists, keys, List.mem_map]
  constructor
  · rintro ⟨⟨k, v⟩, h, rfl⟩
    exact ⟨v, get?_eq_some_iff.2 h⟩
  · rintro ⟨v, h⟩
    exact ⟨(id, v), get?_eq_some_iff.1 h, rfl⟩

theorem pairwise_keys (m : IdMap α) : m.keys.Pairwise (· < ·) := by
  rw [keys, List.pairwise_map]; exact m.sorted

def map (f : Uuid → α → β) (m : IdMap α) : IdMap β :=
  ⟨m.entries.map fun e ↦ (e.1, f e.1 e.2), by
    rw [List.pairwise_map]; exact m.sorted⟩

/-- The map of a list of entries, a later entry replacing an earlier one of the same id. -/
def ofList (l : List (Uuid × α)) : IdMap α := l.foldl (fun m e ↦ m.insert e.1 e.2) ∅

/-- The first map with the entries of the second put over it. -/
def override (m n : IdMap α) : IdMap α := n.entries.foldl (fun m e ↦ m.insert e.1 e.2) m

def setOf (ids : List Uuid) : IdSet := ofList (ids.map (·, ()))

def add (s : IdSet) (id : Uuid) : IdSet := s.insert id ()

@[simp] theorem get?_map (f : Uuid → α → β) (m : IdMap α) (id : Uuid) :
    (m.map f).get? id = (m.get? id).map (f id) := by
  show find id (m.entries.map fun e ↦ (e.1, f e.1 e.2)) = (find id m.entries).map (f id)
  induction m.entries with
  | nil => rfl
  | cons p rest ih =>
    obtain ⟨k, v⟩ := p
    rw [List.map_cons, find, find]
    split
    · rename_i eq
      cases eq; rfl
    · exact ih

theorem ext {m n : IdMap α} (h : ∀ id, m.get? id = n.get? id) : m = n := by
  have same : m.entries = n.entries := by
    have go : ∀ (a b : List (Uuid × α)), a.Pairwise (·.1 < ·.1) → b.Pairwise (·.1 < ·.1) →
        (∀ e, e ∈ a ↔ e ∈ b) → a = b := by
      intro a
      induction a with
      | nil =>
        intro b _ _ same
        cases b with
        | nil => rfl
        | cons e b => exact absurd ((same e).2 List.mem_cons_self) List.not_mem_nil
      | cons e a ih =>
        intro b sa sb same
        cases b with
        | nil => exact absurd ((same e).1 List.mem_cons_self) List.not_mem_nil
        | cons f b =>
          have ⟨ea, sa'⟩ := List.pairwise_cons.1 sa
          have ⟨fb, sb'⟩ := List.pairwise_cons.1 sb
          have eq : e = f := by
            rcases List.mem_cons.1 ((same e).1 List.mem_cons_self) with h | h
            · exact h
            · rcases List.mem_cons.1 ((same f).2 List.mem_cons_self) with k | k
              · exact k.symm
              · exact absurd (fb e h) (Uuid.lt_asymm (ea f k))
          subst eq
          refine congrArg (e :: ·) (ih b sa' sb' fun x ↦ ⟨fun hx ↦ ?_, fun hx ↦ ?_⟩)
          · rcases List.mem_cons.1 ((same x).1 (List.mem_cons_of_mem _ hx)) with rfl | h
            · exact absurd (ea _ hx) (Uuid.lt_irrefl _)
            · exact h
          · rcases List.mem_cons.1 ((same x).2 (List.mem_cons_of_mem _ hx)) with rfl | h
            · exact absurd (fb _ hx) (Uuid.lt_irrefl _)
            · exact h
    refine go _ _ m.sorted n.sorted fun ⟨id, v⟩ ↦ ?_
    rw [← get?_eq_some_iff, ← get?_eq_some_iff, h]
  cases m; cases n; cases same; rfl

end IdMap

end Cascade
