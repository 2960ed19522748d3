import Cascade.NameMap
import Mathlib.Data.List.Induction

/-!
# Names of maps that are put together

`NameMap.mem_names_ofList` says which names a map has that was made from a list, and
`NameMap.ofList_entries` that a map is made from its own entries.  So changing names that all stay
as they are changes nothing (`NameMap.renamed_eq_self`).
-/

namespace Cascade.NameMap

universe u

variable {α : Type u} {m : NameMap α} {name : String} {v : α}

theorem find_eq_none_iff {l : List (String × α)} : find name l = none ↔ name ∉ l.map (·.1) := by
  induction l with
  | nil => simp [find]
  | cons e l ih =>
    obtain ⟨k, w⟩ := e
    rw [find, List.map_cons, List.mem_cons, not_or, ← ih]
    by_cases h : k = name
    · simp [h]
    · simp [h, Ne.symm h]

theorem mem_names : name ∈ m.names ↔ ∃ v, m.get? name = some v := by
  rw [← Option.ne_none_iff_exists', Ne, get?, find_eq_none_iff, not_not]
  rfl

theorem mem_names_insert {k : String} :
    name ∈ (m.insert k v).names ↔ k = name ∨ name ∈ m.names := by
  rw [mem_names, mem_names, get?_insert]
  by_cases h : k = name
  · simp [h]
  · simp [h]

/-- The names of a map that is made from a list are those of its entries. -/
theorem mem_names_ofList {l : List (String × α)} :
    name ∈ (ofList l).names ↔ ∃ e ∈ l, e.1 = name := by
  induction l using List.reverseRecOn with
  | nil =>
    constructor
    · intro h
      cases h
    · rintro ⟨e, ⟨⟩, -⟩
  | append_singleton l e ih =>
    rw [ofList, List.foldl_append, ← ofList, List.foldl_cons, List.foldl_nil, mem_names_insert, ih]
    simp only [List.mem_append, List.mem_singleton, or_and_right, exists_or, exists_eq_left]
    exact or_comm

/-- An entry whose name is greater than all others stands last. -/
theorem insertEntry_of_lt {l : List (String × α)} (greatest : ∀ e ∈ l, e.1 < name) :
    insertEntry name v l = l ++ [(name, v)] := by
  induction l with
  | nil => rfl
  | cons e l ih =>
    obtain ⟨lt, rest⟩ := List.forall_mem_cons.1 greatest
    have after : ¬ name < e.1 := fun gt ↦ String.lt_irrefl name (String.lt_trans gt lt)
    have other : name ≠ e.1 := fun eq ↦ String.lt_irrefl name (by rwa [← eq] at lt)
    rw [insertEntry, if_neg after, if_neg other, ih rest]
    rfl

theorem ofList_entries (m : NameMap α) : ofList m.entries = m := by
  have go : ∀ l : List (String × α), l.Pairwise (·.1 < ·.1) → (ofList l).entries = l := by
    intro l
    induction l using List.reverseRecOn with
    | nil => exact fun _ ↦ rfl
    | append_singleton l e ih =>
      intro sorted
      obtain ⟨front, -, below⟩ := List.pairwise_append.1 sorted
      have greatest : ∀ x ∈ l, x.1 < e.1 := fun x hx ↦ below x hx e (List.mem_singleton_self e)
      rw [ofList, List.foldl_append, ← ofList]
      show insertEntry e.1 e.2 (ofList l).entries = _
      rw [ih front, insertEntry_of_lt greatest]
  have same := go m.entries m.sorted
  cases m with
  | mk entries sorted =>
    generalize ofList entries = n at same
    cases n with
    | mk entries' sorted' =>
      cases same
      rfl

def renamed (f : String → String) (m : NameMap α) : NameMap α :=
  ofList (m.entries.map fun e ↦ (f e.1, e.2))

theorem mem_names_renamed {f : String → String} :
    name ∈ (m.renamed f).names ↔ ∃ k ∈ m.names, f k = name := by
  rw [renamed, mem_names_ofList, names]
  simp only [List.mem_map]
  constructor
  · rintro ⟨-, ⟨e, mem, rfl⟩, rfl⟩
    exact ⟨e.1, ⟨e, mem, rfl⟩, rfl⟩
  · rintro ⟨-, ⟨e, mem, rfl⟩, rfl⟩
    exact ⟨_, ⟨e, mem, rfl⟩, rfl⟩

/-- Where every name stays as it is, the map does. -/
theorem renamed_eq_self {f : String → String} (same : ∀ k ∈ m.names, f k = k) :
    m.renamed f = m := by
  have entries : m.entries.map (fun e ↦ (f e.1, e.2)) = m.entries := by
    have each : m.entries.map (fun e ↦ (f e.1, e.2)) = m.entries.map id :=
      List.map_congr_left fun e he ↦
        Prod.ext (same e.1 (List.mem_map.2 ⟨e, he, rfl⟩)) rfl
    rw [each, List.map_id]
  rw [renamed, entries, ofList_entries]

end Cascade.NameMap
