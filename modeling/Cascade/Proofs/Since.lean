import Mathlib.Data.List.Basic

/-!
# What holds since something happened

`Since p q l` says of a history `l`, the oldest entry first, that `q` held of some entry and `p` of
every later one.  `since_snoc` says how one more entry changes that: the history is then split at
the new entry, or at an older one as before (`snoc_eq_split_iff`).
-/

namespace Cascade

variable {α : Type} {p q : α → Prop} {l : List α}

/-- Something happened for which `q` holds, and `p` holds of everything after it. -/
def Since (p q : α → Prop) (l : List α) : Prop :=
  ∃ before a after, l = before ++ a :: after ∧ q a ∧ ∀ x ∈ after, p x

/-- A history with one more entry is split at that entry or before it. -/
theorem snoc_eq_split_iff {a b : α} {before after : List α} :
    l ++ [a] = before ++ b :: after ↔
      after = [] ∧ before = l ∧ b = a ∨ ∃ rest, after = rest ++ [a] ∧ l = before ++ b :: rest := by
  constructor
  · intro h
    rcases List.eq_nil_or_concat' after with rfl | ⟨rest, x, rfl⟩
    · obtain ⟨rfl, eq⟩ := List.append_inj' h rfl
      cases eq
      exact .inl ⟨rfl, rfl, rfl⟩
    · have split : l ++ [a] = (before ++ b :: rest) ++ [x] := by simpa using h
      obtain ⟨rfl, eq⟩ := List.append_inj' split rfl
      cases eq
      exact .inr ⟨rest, rfl, rfl⟩
  · rintro (⟨rfl, rfl, rfl⟩ | ⟨rest, rfl, rfl⟩)
    · rfl
    · simp

theorem not_since_nil : ¬ Since p q [] := by
  rintro ⟨before, a, after, h, -⟩
  simp at h

/-- One more entry begins it, or goes on with it. -/
theorem since_snoc {a : α} : Since p q (l ++ [a]) ↔ q a ∨ (p a ∧ Since p q l) := by
  constructor
  · rintro ⟨before, b, after, h, hq, hp⟩
    rcases snoc_eq_split_iff.1 h with ⟨rfl, rfl, rfl⟩ | ⟨after, rfl, rfl⟩
    · exact .inl hq
    · exact .inr ⟨hp a (by simp), before, b, after, rfl, hq, fun x hx ↦ hp x (by simp [hx])⟩
  · rintro (hq | ⟨ha, before, b, after, rfl, hq, hp⟩)
    · exact ⟨l, a, [], rfl, hq, by simp⟩
    · refine ⟨before, b, after ++ [a], by simp, hq, ?_⟩
      intro x hx
      rcases List.mem_append.1 hx with hx | hx
      · exact hp x hx
      · rw [List.mem_singleton.1 hx]
        exact ha

end Cascade
