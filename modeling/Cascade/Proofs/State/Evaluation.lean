import Cascade.State.Evaluation

/-!
# Why a component has a state

The state of a component by its own signals is counted, or is trouble that goes on, or is health
(`Grounds`).  Only the last two look at the state that it had.

So a component that was not critical becomes critical by its signals alone
(`Grounds.breached`), and a second look from the effect of the first finds the same
(`Grounds.again`).
-/

namespace Cascade.State

open Time

variable {signals : List Signal} {threshold : Threshold} {now : Instant}
  {previous next s : ComponentState}

/-- Enough critical signals lie within the window. -/
def Breached (signals : List Signal) (threshold : Threshold) (now : Instant) : Prop :=
  ∃ start, now.back? threshold.window = some start ∧
    threshold.critical ≤ count (inWindow signals start now) .critical

/-- Why a component that had a state has another now. -/
inductive Grounds (signals : List Signal) (threshold : Threshold) (now : Instant) :
    (previous s : ComponentState) → Prop where
  /-- So the signals in the window count, whatever the component was. -/
  | counted {previous s : ComponentState}
      (anyhow : ∀ next, evaluate signals next threshold now = some s)
      (breached : s = .critical → Breached signals threshold now) :
      Grounds signals threshold now previous s
  /-- Its trouble goes on. -/
  | held {previous : ComponentState} (elevated : previous.isElevated = true)
      (onward : evaluate signals previous threshold now = some previous) :
      Grounds signals threshold now previous previous
  /-- There is no trouble, and none to go on. -/
  | well {previous : ComponentState}
      (untroubled : ∀ next : ComponentState, next.isElevated = false →
        evaluate signals next threshold now = some .healthy) :
      Grounds signals threshold now previous .healthy

theorem grounds_of_evaluate (h : evaluate signals previous threshold now = some s) :
    Grounds signals threshold now previous s := by
  by_cases silent : signals = []
  · have anyhow : ∀ next, evaluate signals next threshold now = some .unknown := by
      simp [evaluate, silent]
    cases (anyhow previous).symm.trans h
    exact .counted anyhow nofun
  cases begins : now.back? threshold.window with
  | none => simp [evaluate, silent, begins] at h
  | some start =>
    by_cases vacant : inWindow signals start now = []
    · have anyhow : ∀ next, evaluate signals next threshold now = some .unknown := by
        simp [evaluate, silent, begins, vacant]
      cases (anyhow previous).symm.trans h
      exact .counted anyhow nofun
    by_cases critical : threshold.critical ≤ count (inWindow signals start now) .critical
    · have anyhow : ∀ next, evaluate signals next threshold now = some .critical := by
        simp [evaluate, silent, begins, vacant, critical]
      cases (anyhow previous).symm.trans h
      exact .counted anyhow fun _ ↦ ⟨start, begins, critical⟩
    by_cases degraded : threshold.degraded ≤ count (inWindow signals start now) .warning
    · have anyhow : ∀ next, evaluate signals next threshold now = some .degraded := by
        simp [evaluate, silent, begins, vacant, critical, degraded]
      cases (anyhow previous).symm.trans h
      exact .counted anyhow nofun
    -- the counts decide nothing, so it hangs on the state that the component had
    have untroubled : ∀ next : ComponentState, next.isElevated = false →
        evaluate signals next threshold now = some .healthy := by
      simp +contextual [evaluate, silent, begins, vacant, critical, degraded]
    cases elevated : previous.isElevated with
    | false =>
      cases (untroubled previous elevated).symm.trans h
      exact .well untroubled
    | true =>
      cases quiet : now.back? threshold.recovery with
      | none => simp [evaluate, silent, begins, vacant, critical, degraded, elevated, quiet] at h
      | some quietStart =>
        have verdict : evaluate signals previous threshold now =
            some (if signals.any (isFreshTrouble quietStart now) then previous else .healthy) := by
          simp [evaluate, silent, begins, vacant, critical, degraded, elevated, quiet]
        cases fresh : signals.any (isFreshTrouble quietStart now) with
        | true =>
          rw [fresh] at verdict
          cases verdict.symm.trans h
          exact .held elevated verdict
        | false =>
          rw [fresh] at verdict
          cases verdict.symm.trans h
          exact .well untroubled

/-- A component that was not critical becomes critical by its signals alone. -/
theorem Grounds.breached (h : Grounds signals threshold now previous .critical)
    (before : previous ≠ .critical) : Breached signals threshold now := by
  cases h with
  | counted _ breached => exact breached rfl
  | held _ _ => exact absurd rfl before

/-- A second look finds what the first one found, if trouble was kept and nothing became trouble in
between. -/
theorem Grounds.again (h : Grounds signals threshold now previous s)
    (kept : s.isElevated = true → next = s)
    (calm : s.isElevated = false → next.isElevated = false) :
    evaluate signals next threshold now = some s := by
  cases h with
  | counted anyhow _ => exact anyhow next
  | held elevated onward =>
    rw [kept elevated]
    exact onward
  | well untroubled => exact untroubled next (calm rfl)

end Cascade.State
