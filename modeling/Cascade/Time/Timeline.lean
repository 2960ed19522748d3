/-!
# Time that moves by itself

A system does what it can do now, waits for the first of its timers, and goes on.  Time only moves
while nothing can be done.
-/

namespace Cascade.Time

/-- A system with a clock of whole milliseconds. -/
structure Timeline (S : Type) where
  now : S → Nat
  moveTo : Nat → S → S
  /-- The first timer that has not gone off. -/
  due : S → Option Nat
  /-- The next thing that can be done now. -/
  step : S → Option S
  /-- More than the number of things that can be done at one time. -/
  bound : S → Nat

namespace Timeline

variable {S : Type} (m : Timeline S)

/-- Does what can be done now, up to a number of steps. -/
def settleFor : Nat → S → S
  | 0, s => s
  | n + 1, s =>
    match m.step s with
    | none => s
    | some t => settleFor n t

/-- Does everything that can be done now. -/
def settle (s : S) : S := m.settleFor (m.bound s) s

/-- Lets time pass up to a moment or until a condition holds, whichever is first.  The first
argument bounds the number of timers that go off on the way. -/
def advanceFor (stop : S → Bool) (target : Nat) : Nat → S → S
  | 0, s => s
  | n + 1, s =>
    let s := m.settle s
    if stop s then s
    else
      match m.due s with
      | none => m.moveTo (max target (m.now s)) s
      | some d =>
        if d ≤ target then advanceFor stop target n (m.moveTo (max d (m.now s)) s)
        else m.moveTo (max target (m.now s)) s

/-- Lets time pass up to a moment or until a condition holds. -/
def advanceUntil (stop : S → Bool) (target : Nat) (s : S) : S :=
  m.advanceFor stop target (target + 2 - m.now s) s

/-- Lets time pass up to a moment. -/
def advanceTo (target : Nat) (s : S) : S := m.advanceUntil (fun _ ↦ false) target s

end Timeline

end Cascade.Time
