import Mathlib.Data.List.Forall2

/-!
# Answers that may be refusals

When an answer that is put together from others goes through: one answer after another
(`bind_eq_ok_iff`), and one for each member of a list (`mapM_eq_ok_iff`).
-/

namespace Cascade

theorem exists_of_map_eq_ok {ε α β : Type} {f : α → β} {answer : Except ε α} {b : β}
    (h : answer.map f = .ok b) : ∃ a, answer = .ok a ∧ f a = b := by
  cases answer with
  | error e => cases h
  | ok a => exact ⟨a, rfl, Except.ok.inj h⟩

theorem of_map_eq_error {ε α β : Type} {f : α → β} {answer : Except ε α} {e : ε}
    (h : answer.map f = .error e) : answer = .error e := by
  cases answer with
  | error e' => rw [Except.error.inj h]
  | ok a => cases h

theorem of_mapError_eq_ok {ε ε' α : Type} {f : ε → ε'} {answer : Except ε α} {a : α}
    (h : answer.mapError f = .ok a) : answer = .ok a := by
  cases answer with
  | error e => cases h
  | ok a' => rw [Except.ok.inj h]

/-- A step after another goes through exactly if both do. -/
theorem bind_eq_ok_iff {ε α β : Type} {x : Except ε α} {f : α → Except ε β} {b : β} :
    (x >>= f) = .ok b ↔ ∃ a, x = .ok a ∧ f a = .ok b := by
  cases x with
  | error e => simp [bind, Except.bind]
  | ok a => simp [bind, Except.bind]

/-- A step after another is refused exactly if the first is, or goes through and the second is. -/
theorem bind_eq_error_iff {ε α β : Type} {x : Except ε α} {f : α → Except ε β} {e : ε} :
    (x >>= f) = .error e ↔ x = .error e ∨ ∃ a, x = .ok a ∧ f a = .error e := by
  cases x with
  | error e' => simp [bind, Except.bind]
  | ok a => simp [bind, Except.bind]

/-- Steps for the members of a list go through exactly if each does. -/
theorem mapM_eq_ok_iff {ε α β : Type} {f : α → Except ε β} {l : List α} {l' : List β} :
    l.mapM f = .ok l' ↔ List.Forall₂ (fun a b ↦ f a = .ok b) l l' := by
  induction l generalizing l' with
  | nil =>
    rw [List.mapM_nil, List.forall₂_nil_left_iff]
    exact ⟨fun h ↦ (Except.ok.inj h).symm, fun h ↦ h ▸ rfl⟩
  | cons a l ih =>
    rw [List.mapM_cons, bind_eq_ok_iff, List.forall₂_cons_left_iff]
    simp only [bind_eq_ok_iff, ih]
    constructor
    · rintro ⟨b, first, l', rest, eq⟩
      exact ⟨b, l', first, rest, (Except.ok.inj eq).symm⟩
    · rintro ⟨b, l', first, rest, rfl⟩
      exact ⟨b, first, l', rest, rfl⟩

/-- Steps for the members of a list are refused only if one of them is. -/
theorem exists_of_mapM_eq_error {ε α β : Type} {f : α → Except ε β} {l : List α} {e : ε}
    (h : l.mapM f = .error e) : ∃ a ∈ l, f a = .error e := by
  induction l with
  | nil => cases h
  | cons a l ih =>
    rw [List.mapM_cons] at h
    rcases bind_eq_error_iff.1 h with first | ⟨b, -, h⟩
    · exact ⟨a, List.mem_cons_self, first⟩
    · rcases bind_eq_error_iff.1 h with rest | ⟨l', -, h⟩
      · obtain ⟨a', mem, refused⟩ := ih rest
        exact ⟨a', List.mem_cons_of_mem a mem, refused⟩
      · cases h

theorem foldlM_keeps {ε α β : Type} {f : β → α → Except ε β} {P : β → Prop} {l : List α}
    (step : ∀ a ∈ l, ∀ {b b'}, P b → f b a = .ok b' → P b') {b b' : β} (start : P b)
    (run : l.foldlM f b = .ok b') : P b' := by
  induction l generalizing b with
  | nil => exact Except.ok.inj run ▸ start
  | cons a l ih =>
    obtain ⟨first, rest⟩ := List.forall_mem_cons.1 step
    rw [List.foldlM_cons] at run
    obtain ⟨mid, went, run⟩ := bind_eq_ok_iff.1 run
    exact ih rest (first start went) run

/-- Steps one after another are refused only if one of them is. -/
theorem exists_of_foldlM_eq_error {ε α β : Type} {f : β → α → Except ε β} {l : List α} {b : β}
    {e : ε} (h : l.foldlM f b = .error e) : ∃ a ∈ l, ∃ b', f b' a = .error e := by
  induction l generalizing b with
  | nil => cases h
  | cons a l ih =>
    rw [List.foldlM_cons] at h
    rcases bind_eq_error_iff.1 h with first | ⟨b', -, rest⟩
    · exact ⟨a, List.mem_cons_self, b, first⟩
    · obtain ⟨a', mem, refused⟩ := ih rest
      exact ⟨a', List.mem_cons_of_mem a mem, refused⟩

/-- Where every step goes through and keeps a relation, so do all steps. -/
theorem exists_foldlM {ε α β γ : Type} {f : β → α → Except ε β} {g : γ → α → γ} {R : γ → β → Prop}
    {l : List α} (step : ∀ a ∈ l, ∀ {c b}, R c b → ∃ b', f b a = .ok b' ∧ R (g c a) b') {c : γ}
    {b : β} (start : R c b) : ∃ b', l.foldlM f b = .ok b' ∧ R (l.foldl g c) b' := by
  induction l generalizing c b with
  | nil => exact ⟨b, rfl, start⟩
  | cons a l ih =>
    obtain ⟨first, rest⟩ := List.forall_mem_cons.1 step
    obtain ⟨b', ok, related⟩ := first start
    obtain ⟨b'', done, related⟩ := ih rest related
    refine ⟨b'', ?_, related⟩
    rw [List.foldlM_cons, ok]
    exact done

/-- Steps on the images of what other steps work on give the images of what those give. -/
theorem foldlM_map_comm {ε α β γ : Type} {f : β → α → Except ε β} {f' : γ → α → Except ε γ}
    {g : β → γ} (step : ∀ b a, f' (g b) a = (f b a).map g) (l : List α) (b : β) :
    l.foldlM f' (g b) = (l.foldlM f b).map g := by
  induction l generalizing b with
  | nil => rfl
  | cons a l ih =>
    rw [List.foldlM_cons, List.foldlM_cons, step]
    cases f b a with
    | error e => rfl
    | ok b' => exact ih b'

/-- Two answers that are refusals for the same cause, or go through and are related. -/
inductive AnswersAlike {ε α β : Type} (R : α → β → Prop) : Except ε α → Except ε β → Prop
  | ok {a : α} {b : β} (related : R a b) : AnswersAlike R (.ok a) (.ok b)
  | error (e : ε) : AnswersAlike R (.error e) (.error e)

theorem AnswersAlike.of_map {ε α β γ : Type} {R : β → γ → Prop} {f : α → β} {g : α → γ}
    (related : ∀ a, R (f a) (g a)) (answer : Except ε α) :
    AnswersAlike R (answer.map f) (answer.map g) := by
  cases answer with
  | error e => exact .error e
  | ok a => exact .ok (related a)

/-- What stands on the left of related lists is related to something on the right. -/
theorem exists_related {α β : Type} {R : α → β → Prop} {l : List α} {l' : List β}
    (h : List.Forall₂ R l l') {a : α} (ha : a ∈ l) : ∃ b ∈ l', R a b := by
  induction h with
  | nil => cases ha
  | @cons x y l l' related _ ih =>
    rcases List.mem_cons.1 ha with rfl | ha
    · exact ⟨y, List.mem_cons_self, related⟩
    · obtain ⟨b, hb, related⟩ := ih ha
      exact ⟨b, List.mem_cons_of_mem y hb, related⟩

end Cascade
