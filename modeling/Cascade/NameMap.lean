/-!
# Finite maps keyed by name

A map is the list of its entries in the order of their names, each name at most once.  Names are
ordered by their code points, which is also the order of their bytes.

`get?_insert` says what setting a value does to the look-ups.
-/

namespace Cascade

universe u

/-- A finite map from names, as its entries in the order of their names. -/
structure NameMap (α : Type u) where
  entries : List (String × α)
  sorted : entries.Pairwise (·.1 < ·.1)

namespace NameMap

variable {α : Type u}

def empty : NameMap α := ⟨[], .nil⟩

instance : EmptyCollection (NameMap α) := ⟨empty⟩

instance : Inhabited (NameMap α) := ⟨empty⟩

/-- The value that a list of entries holds for a name. -/
def find (name : String) : List (String × α) → Option α
  | [] => none
  | (k, v) :: rest => if k = name then some v else find name rest

def get? (m : NameMap α) (name : String) : Option α := find name m.entries

def names (m : NameMap α) : List String := m.entries.map (·.1)

/-- The entries with the value of a name set, at its place in the order. -/
def insertEntry (name : String) (v : α) : List (String × α) → List (String × α)
  | [] => [(name, v)]
  | (k, w) :: rest =>
    if name < k then (name, v) :: (k, w) :: rest
    else if name = k then (name, v) :: rest
    else (k, w) :: insertEntry name v rest

theorem mem_insertEntry {name : String} {v : α} {e : String × α} {l : List (String × α)}
    (h : e ∈ insertEntry name v l) : e = (name, v) ∨ e ∈ l := by
  induction l with
  | nil => simpa [insertEntry] using h
  | cons p rest ih =>
    obtain ⟨k, w⟩ := p
    rw [insertEntry] at h
    split at h
    · simpa using h
    · split at h
      · rcases List.mem_cons.1 h with h | h
        · exact .inl h
        · exact .inr (List.mem_cons_of_mem _ h)
      · rcases List.mem_cons.1 h with h | h
        · exact .inr (h ▸ List.mem_cons_self)
        · exact (ih h).imp (fun eq ↦ eq) (List.mem_cons_of_mem _)

/-- Of two names that differ one is smaller. -/
theorem lt_of_not_lt {a b : String} (ne : a ≠ b) (h : ¬a < b) : b < a := by
  rcases String.le_total a b with le | le
  · exact absurd (String.le_antisymm le (String.not_lt.1 h)) ne
  · exact String.not_le.1 fun ge ↦ ne (String.le_antisymm ge le)

theorem pairwise_insertEntry {name : String} {v : α} {l : List (String × α)}
    (h : l.Pairwise (·.1 < ·.1)) : (insertEntry name v l).Pairwise (·.1 < ·.1) := by
  induction l with
  | nil => simp [insertEntry]
  | cons p rest ih =>
    obtain ⟨k, w⟩ := p
    have ⟨above, tail⟩ := List.pairwise_cons.1 h
    rw [insertEntry]
    split
    · rename_i lt
      refine List.pairwise_cons.2 ⟨fun e he ↦ ?_, h⟩
      rcases List.mem_cons.1 he with rfl | he
      · exact lt
      · exact String.lt_trans lt (above e he)
    · split
      · rename_i _ eq
        subst eq
        exact List.pairwise_cons.2 ⟨above, tail⟩
      · rename_i nlt ne
        refine List.pairwise_cons.2 ⟨fun e he ↦ ?_, ih tail⟩
        rcases mem_insertEntry he with rfl | he
        · exact lt_of_not_lt ne nlt
        · exact above e he

def insert (m : NameMap α) (name : String) (v : α) : NameMap α :=
  ⟨insertEntry name v m.entries, pairwise_insertEntry m.sorted⟩

/-- The map of a list of entries, a later entry replacing an earlier one of the same name. -/
def ofList (l : List (String × α)) : NameMap α := l.foldl (fun m e ↦ m.insert e.1 e.2) ∅

theorem find_insertEntry (name : String) (v : α) (l : List (String × α)) (k : String) :
    find k (insertEntry name v l) = if name = k then some v else find k l := by
  induction l with
  | nil => simp [insertEntry, find]
  | cons p rest ih =>
    obtain ⟨j, w⟩ := p
    rw [insertEntry]
    split
    · simp [find]
    · split
      · rename_i _ eq
        subst eq
        by_cases h : name = k <;> simp [find, h]
      · rename_i _ ne
        by_cases h : name = k
        · subst h
          simp [find, Ne.symm ne, ih]
        · simp only [find, ih, h, if_false]

/-- After a value is set, its name has that value and every other name has the value it had. -/
@[simp] theorem get?_insert (m : NameMap α) (name : String) (v : α) (k : String) :
    (m.insert name v).get? k = if name = k then some v else m.get? k :=
  find_insertEntry name v m.entries k

end NameMap

end Cascade
