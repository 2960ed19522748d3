import Cascade.Proofs.Text.Case
import Cascade.Text.Digits
import Mathlib.Tactic.Ring

/-!
# Digits among other characters

A digit has no other case, and nothing becomes a digit or a plus when letters are made small.  So
the leading digits of a text are the same in small letters (`takeWhile_isDigit_map`), and so is a
leading plus (`dropPlus_map`).  Digits have the value that they have to the base ten (`value_eq`).
-/

namespace Cascade.Text

variable {c : Char}

theorem isDigit_iff : isDigit c = true ↔ 48 ≤ c.toNat ∧ c.toNat ≤ 57 := by
  rw [isDigit, Bool.and_eq_true, decide_eq_true_iff, decide_eq_true_iff]

theorem isDigit_eq (c : Char) : isDigit c = c.isDigit := by
  rw [Bool.eq_iff_iff, isDigit_iff, Char.isDigit, Bool.and_eq_true, decide_eq_true_iff,
    decide_eq_true_iff]
  rfl

theorem toLower_of_isDigit (digit : isDigit c = true) : c.toLower = c := by
  have := isDigit_iff.1 digit
  apply Char.toNat_inj.1
  rw [toNat_toLower, if_neg (by omega)]

theorem isDigit_toLower (c : Char) : isDigit c.toLower = isDigit c := by
  rw [Bool.eq_iff_iff, isDigit_iff, isDigit_iff, toNat_toLower]
  split <;> omega

theorem isBlank_of_isDigit (digit : isDigit c = true) : isBlank c = false := by
  have := isDigit_iff.1 digit
  rw [Bool.eq_false_iff]
  intro blank
  simp only [isBlank, Bool.or_eq_true, Bool.and_eq_true, decide_eq_true_eq, beq_iff_eq] at blank
  omega

theorem map_toLower_of_digits {cs : List Char} (digits : ∀ c ∈ cs, isDigit c = true) :
    cs.map Char.toLower = cs :=
  map_toLower_eq_self_iff.2 fun c mem ↦ toLower_of_isDigit (digits c mem)

/-! ### Leading digits and a plus -/

theorem takeWhile_isDigit_map (cs : List Char) :
    (cs.map Char.toLower).takeWhile isDigit = cs.takeWhile isDigit := by
  have digit : isDigit ∘ Char.toLower = isDigit := funext isDigit_toLower
  rw [List.takeWhile_map, digit]
  exact map_toLower_of_digits fun c mem ↦ List.mem_takeWhile_imp mem

theorem dropWhile_isDigit_map (cs : List Char) :
    (cs.map Char.toLower).dropWhile isDigit = (cs.dropWhile isDigit).map Char.toLower := by
  have digit : isDigit ∘ Char.toLower = isDigit := funext isDigit_toLower
  rw [List.dropWhile_map, digit]

theorem dropPlus_cons_of_ne {cs : List Char} (ne : c ≠ '+') : dropPlus (c :: cs) = c :: cs := by
  rw [dropPlus]
  rintro _ ⟨⟩
  exact ne rfl

theorem toLower_eq_plus_iff : c.toLower = '+' ↔ c = '+' := by
  rw [← Char.toNat_inj, ← Char.toNat_inj, toNat_toLower]
  have plus : '+'.toNat = 43 := rfl
  split <;> omega

theorem dropPlus_map (cs : List Char) :
    dropPlus (cs.map Char.toLower) = (dropPlus cs).map Char.toLower := by
  cases cs with
  | nil => rfl
  | cons c cs =>
    rw [List.map_cons]
    by_cases plus : c = '+'
    · subst plus
      rfl
    · rw [dropPlus_cons_of_ne plus, dropPlus_cons_of_ne (toLower_eq_plus_iff.not.2 plus),
        List.map_cons]

/-- A text is what follows its plus, behind a plus or not. -/
theorem exists_plus (cs : List Char) :
    ∃ plus : Bool, cs = (if plus then ['+'] else []) ++ dropPlus cs := by
  cases cs with
  | nil => exact ⟨false, rfl⟩
  | cons c cs =>
    by_cases plus : c = '+'
    · subst plus
      exact ⟨true, rfl⟩
    · exact ⟨false, (dropPlus_cons_of_ne plus).symm⟩

theorem dropPlus_append {cs : List Char} (ne : cs ≠ []) (rest : List Char) :
    dropPlus (cs ++ rest) = dropPlus cs ++ rest := by
  obtain ⟨c, cs, rfl⟩ := List.exists_cons_of_ne_nil ne
  by_cases plus : c = '+'
  · subst plus
    rfl
  · rw [List.cons_append, dropPlus_cons_of_ne plus, dropPlus_cons_of_ne plus, List.cons_append]

theorem dropPlus_of_digits {cs : List Char} (digits : ∀ c ∈ cs, isDigit c = true) :
    dropPlus cs = cs := by
  cases cs with
  | nil => rfl
  | cons c cs =>
    refine dropPlus_cons_of_ne ?_
    rintro rfl
    cases digits _ List.mem_cons_self

/-- Digits are told from what follows them. -/
theorem takeWhile_digits_append {cs rest : List Char} (digits : ∀ c ∈ cs, isDigit c = true)
    (plain : ∀ c ∈ rest, isDigit c = false) : (cs ++ rest).takeWhile isDigit = cs := by
  have stop : rest.takeWhile isDigit = [] := by
    cases rest with
    | nil => rfl
    | cons c rest =>
      exact List.takeWhile_cons_of_neg (ne_true_of_eq_false (plain c List.mem_cons_self))
  rw [List.takeWhile_append_of_pos digits, stop, List.append_nil]

theorem dropWhile_digits_append {cs rest : List Char} (digits : ∀ c ∈ cs, isDigit c = true)
    (plain : ∀ c ∈ rest, isDigit c = false) : (cs ++ rest).dropWhile isDigit = rest := by
  have whole := List.takeWhile_append_dropWhile (p := isDigit) (l := cs ++ rest)
  rw [takeWhile_digits_append digits plain] at whole
  exact List.append_cancel_left whole

/-! ### Values -/

/-- Digits have the value that they have to the base ten. -/
theorem value_eq (cs : List Char) : value cs = Nat.ofDigitChars 10 cs 0 := by
  have place : (fun (n : ℕ) (c : Char) ↦ n * 10 + digitValue c) =
      fun n c ↦ 10 * n + (c.toNat - '0'.toNat) := by
    funext n c
    rw [mul_comm]
    rfl
  rw [value, valueFrom, place, Nat.ofDigitChars]

theorem readNumber_eq_some_iff {cs : List Char} {n : ℕ} : readNumber cs = some n ↔
    cs ≠ [] ∧ (∀ c ∈ cs, isDigit c = true) ∧ Nat.ofDigitChars 10 cs 0 = n := by
  rw [readNumber, ← value_eq]
  cases cs with
  | nil => simp
  | cons c cs => simp [List.all_eq_true]

end Cascade.Text
