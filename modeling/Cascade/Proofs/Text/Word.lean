import Cascade.Proofs.Text.Digits
import Cascade.Text.Word

/-!
# Words and numbers

Reading a word digit by digit refuses a number as soon as it is too great.  As no later digit makes
it smaller again, what is refused is exactly a number that does not fit (`readWord_eq_some_iff`).
-/

namespace Cascade.Text

variable {cs : List Char} {m n : ℕ}

theorem word?_eq_some_iff : word? m = some n ↔ m = n ∧ n ≤ wordMax := by
  rw [word?, Option.ite_none_right_eq_some, Option.some.injEq]
  constructor
  · rintro ⟨fits, rfl⟩
    exact ⟨rfl, fits⟩
  · rintro ⟨rfl, fits⟩
    exact ⟨fits, rfl⟩

theorem le_valueFrom (n : ℕ) (cs : List Char) : n ≤ valueFrom n cs := by
  induction cs generalizing n with
  | nil => exact le_refl n
  | cons c cs ih =>
    have grown : n ≤ n * 10 + digitValue c := by omega
    exact grown.trans (ih _)

theorem readWordFrom_eq_some_iff (fits : m ≤ wordMax) : readWordFrom m cs = some n ↔
    (∀ c ∈ cs, isDigit c = true) ∧ valueFrom m cs = n ∧ n ≤ wordMax := by
  induction cs generalizing m with
  | nil =>
    rw [readWordFrom, Option.some.injEq]
    constructor
    · rintro rfl
      exact ⟨nofun, rfl, fits⟩
    · rintro ⟨-, value, -⟩
      exact value
  | cons c cs ih =>
    rw [readWordFrom, Option.ite_none_right_eq_some, List.forall_mem_cons, and_assoc]
    refine and_congr_right fun _ ↦ ?_
    simp only [Option.bind_eq_bind, Option.bind_eq_some_iff, word?_eq_some_iff]
    constructor
    · rintro ⟨_, ⟨rfl, -⟩, _, ⟨rfl, fits⟩, rest⟩
      exact (ih fits).1 rest
    · rintro ⟨digits, rfl, fits⟩
      -- a digit that was too much would leave all that follows too great
      have next : m * 10 + digitValue c ≤ wordMax := (le_valueFrom _ cs).trans fits
      exact ⟨_, ⟨rfl, by omega⟩, _, ⟨rfl, next⟩, (ih next).2 ⟨digits, rfl, fits⟩⟩

/-- A written word is a number behind a plus or not that fits. -/
theorem readWord_eq_some_iff :
    readWord cs = some n ↔ readNumber (dropPlus cs) = some n ∧ n ≤ wordMax := by
  have digits (cs : List Char) (ne : cs ≠ []) :
      readWordFrom 0 cs = some n ↔ readNumber cs = some n ∧ n ≤ wordMax := by
    rw [readWordFrom_eq_some_iff (Nat.zero_le _), readNumber_eq_some_iff, ← value_eq, value]
    tauto
  cases cs with
  | nil => simp [readWord, dropPlus, readNumber]
  | cons c cs =>
    by_cases plus : c = '+'
    · subst plus
      rw [readWord, dropPlus]
      cases cs with
      | nil => simp [readNumber]
      | cons d cs => exact digits _ (List.cons_ne_nil _ _)
    · rw [dropPlus_cons_of_ne plus, readWord]
      · exact digits _ (List.cons_ne_nil _ _)
      · rintro ⟨⟩
      · rintro _ ⟨⟩
        exact plus rfl

end Cascade.Text
