import Cascade.Time.Timeline

/-!
# What lasts while time passes

What every step and every wait keep also holds after time has passed up to a moment
(`advanceUntil_of`).

A system may also be acted on from outside (`Unfolds`).  Then whatever can be done is done before
time goes on, and no timer is passed over; what is done from outside and by the system itself at one
moment comes in any order.  Letting time pass up to a moment is such a course, at the end of which
nothing is left to do (`Steady.unfolds_advanceTo`).
-/

namespace Cascade.Time.Timeline

variable {S A : Type} {m : Timeline S} {P : S → Prop} {s t u : S}

theorem settle_of (step : ∀ {s t}, P s → m.step s = some t → P t) (h : P s) : P (m.settle s) := by
  unfold settle
  generalize m.bound s = n
  induction n generalizing s with
  | zero => exact h
  | succ n ih =>
    unfold settleFor
    split
    · exact h
    · rename_i next
      exact ih (step h next)

theorem advanceUntil_of (step : ∀ {s t}, P s → m.step s = some t → P t)
    (wait : ∀ {s} (n : Nat), P s → P (m.moveTo n s)) (stop : S → Bool) (target : Nat) (h : P s) :
    P (m.advanceUntil stop target s) := by
  unfold advanceUntil
  generalize target + 2 - m.now s = n
  induction n generalizing s with
  | zero => exact h
  | succ n ih =>
    have settled := settle_of step h
    unfold advanceFor
    dsimp only
    split
    · exact settled
    · split
      · exact wait _ settled
      · split
        · exact ih (wait _ settled)
        · exact wait _ settled

/-! ## Actions from outside -/

/-- What becomes of a system that is acted on from outside at some times. -/
inductive Unfolds (m : Timeline S) (Acts : A → S → S → Prop) : S → List (Nat × A) → S → Prop
  | nil (s : S) : Unfolds m Acts s [] s
  | act {s t u : S} {a : A} {es : List (Nat × A)} :
      Acts a s t → Unfolds m Acts t es u → Unfolds m Acts s ((m.now s, a) :: es) u
  | step {s t u : S} {es : List (Nat × A)} :
      m.step s = some t → Unfolds m Acts t es u → Unfolds m Acts s es u
  /-- Time goes on while there is nothing to do, up to the first timer. -/
  | wait {s u : S} {n : Nat} {es : List (Nat × A)} :
      m.step s = none → m.now s ≤ n → (∀ d, m.due s = some d → n ≤ d) →
      Unfolds m Acts (m.moveTo n s) es u → Unfolds m Acts s es u

variable {Acts : A → S → S → Prop} {es fs : List (Nat × A)} {rank : S → Nat} {n target : Nat}

theorem Unfolds.append (first : m.Unfolds Acts s es t) (second : m.Unfolds Acts t fs u) :
    m.Unfolds Acts s (es ++ fs) u := by
  induction first with
  | nil s => exact second
  | act acted _ ih => exact .act acted (ih second)
  | step next _ ih => exact .step next (ih second)
  | wait done late early _ ih => exact .wait done late early (ih second)

/-- Only waiting takes time. -/
structure Timely (m : Timeline S) (Acts : A → S → S → Prop) : Prop where
  moveTo (n : Nat) (s : S) : m.now (m.moveTo n s) = n
  step {s t : S} : m.step s = some t → m.now t = m.now s
  act {a : A} {s t : S} : Acts a s t → m.now t = m.now s

/-- Time does not go back, and what is done from outside is done on the way. -/
theorem Timely.within (timely : m.Timely Acts) (unfolds : m.Unfolds Acts s es u) :
    m.now s ≤ m.now u ∧ ∀ e ∈ es, m.now s ≤ e.1 := by
  induction unfolds with
  | nil s => exact ⟨Nat.le_refl _, nofun⟩
  | act acted _ ih =>
    rw [timely.act acted] at ih
    exact ⟨ih.1, List.forall_mem_cons.2 ⟨Nat.le_refl _, ih.2⟩⟩
  | step next _ ih =>
    rw [timely.step next] at ih
    exact ih
  | wait done late early _ ih =>
    rw [timely.moveTo] at ih
    exact ⟨Nat.le_trans late ih.1, fun e mem ↦ Nat.le_trans late (ih.2 e mem)⟩

/-- A system that comes to rest at every moment.  How much is left to do at a moment is bounded by a
rank, and the timers of a system at rest lie ahead. -/
structure Steady (m : Timeline S) (P : S → Prop) (rank : S → Nat) : Prop where
  now (n : Nat) (s : S) : m.now (m.moveTo n s) = n
  step {s t : S} : P s → m.step s = some t → P t ∧ m.now t = m.now s ∧ rank t < rank s
  bound {s : S} : P s → rank s ≤ m.bound s
  wait {s : S} (n : Nat) : P s → P (m.moveTo n s)
  ahead {s : S} {d : Nat} : P s → m.step s = none → m.due s = some d → m.now s < d
  /-- A system at rest stays so until its first timer. -/
  still {s : S} {n : Nat} : P s → m.step s = none → (∀ d, m.due s = some d → n < d) →
    m.step (m.moveTo n s) = none

namespace Steady

theorem unfolds_settle (steady : m.Steady P rank) (h : P s) :
    m.Unfolds Acts s [] (m.settle s) ∧ P (m.settle s) ∧ m.now (m.settle s) = m.now s ∧
      m.step (m.settle s) = none := by
  unfold settle
  have enough := steady.bound h
  generalize m.bound s = n at enough
  induction n generalizing s with
  | zero =>
    refine ⟨.nil s, h, rfl, ?_⟩
    cases next : m.step s with
    | none => exact next
    | some t => exact absurd (steady.step h next).2.2 (by omega)
  | succ n ih =>
    unfold settleFor
    cases next : m.step s with
    | none => exact ⟨.nil s, h, rfl, next⟩
    | some t =>
      obtain ⟨keeps, same, less⟩ := steady.step h next
      obtain ⟨unfolds, holds, now, rest⟩ := ih keeps (by omega)
      exact ⟨.step next unfolds, holds, now.trans same, rest⟩

/-- Time that passes up to a moment leaves nothing to do. -/
theorem unfolds_advanceTo (steady : m.Steady P rank) (h : P s) (ahead : m.now s ≤ target) :
    m.Unfolds Acts s [] (m.advanceTo target s) ∧ P (m.advanceTo target s) ∧
      m.now (m.advanceTo target s) = target ∧ m.step (m.advanceTo target s) = none := by
  unfold advanceTo advanceUntil
  generalize eq : target + 2 - m.now s = n
  have fuel : target + 2 - m.now s ≤ n := Nat.le_of_eq eq
  clear eq
  induction n generalizing s with
  | zero => omega
  | succ n ih =>
    have settled : m.Unfolds Acts s [] (m.settle s) ∧ _ := steady.unfolds_settle h
    obtain ⟨unfolds, holds, same, rest⟩ := settled
    -- the wait that ends the course
    have last (early : ∀ d, m.due (m.settle s) = some d → target < d) :
        m.Unfolds Acts s [] (m.moveTo target (m.settle s)) ∧ P (m.moveTo target (m.settle s)) ∧
          m.now (m.moveTo target (m.settle s)) = target ∧
          m.step (m.moveTo target (m.settle s)) = none :=
      ⟨unfolds.append (.wait rest (by omega) (fun d due ↦ Nat.le_of_lt (early d due)) (.nil _)),
        steady.wait target holds, steady.now _ _, steady.still holds rest early⟩
    unfold advanceFor
    dsimp only
    rw [if_neg Bool.false_ne_true, Nat.max_eq_left (by omega : m.now (m.settle s) ≤ target)]
    split
    · rename_i none
      exact last fun d due ↦ by simp [none] at due
    · rename_i d due
      split
      · have later := steady.ahead holds rest due
        rw [Nat.max_eq_left (Nat.le_of_lt later)]
        have moved := steady.now d (m.settle s)
        obtain ⟨unfolds', rest'⟩ := ih (steady.wait d holds) (by omega) (by omega)
        refine ⟨unfolds.append (.wait rest (Nat.le_of_lt later) ?_ unfolds'), rest'⟩
        intro d' due'
        exact Nat.le_of_eq (Option.some.inj (due.symm.trans due'))
      · refine last fun d' due' ↦ ?_
        cases due.symm.trans due'
        omega

end Steady

end Cascade.Time.Timeline
