import Cascade.Proofs.IdMap
import Cascade.Signal.Basic
import Mathlib.Data.List.Basic

/-!
# Bursts

Components are handed in at some times.  The first of them that is in no burst yet opens one, with
all that are handed in during the span after it (`bursts`).  The greedy cut (`cut`) has one pass for
each burst, at the end of its span.

What is handed in late, when the marks are about to be taken, is in a pass of its own at once, and
in the pass at the end of the span again only if its wake-up found room (`passesOf`).  Where nothing
is late, these passes are the greedy cut (`flatMap_passesOf`).
-/

namespace Cascade.Worker

/-! ## Bursts -/

def since {α : Type} (time : Nat) (handed : List (Nat × α)) : List (Nat × α) :=
  handed.filter fun e ↦ time ≤ e.1

/-- What is handed in during each span, with the time at which the span begins.  What is handed in
first and in no burst yet opens a span. -/
def bursts {α : Type} (debounce : Nat) : List (Nat × α) → List (Nat × List α)
  | [] => []
  | (time, a) :: later =>
    (time, a :: (later.filter fun e ↦ e.1 < time + debounce).map (·.2)) ::
      bursts debounce (since (time + debounce) later)
termination_by handed => handed.length
decreasing_by exact Nat.lt_succ_of_le (List.length_filter_le _ _)

/-- Nothing is handed in at the very end of a span. -/
def Clear {α : Type} (debounce : Nat) (handed : List (Nat × α)) : Prop :=
  ∀ burst ∈ bursts debounce handed, ∀ e ∈ handed, e.1 ≠ burst.1 + debounce

section

variable {α β : Type} {debounce start : Nat} {handed : List (Nat × α)}

/-- What is handed in after the first span does not count for it. -/
theorem bursts_append {inside : List (Nat × α)} (a : α)
    (before : ∀ e ∈ inside, e.1 < start + debounce) (later : List (Nat × α))
    (beyond : ∀ e ∈ later, start + debounce ≤ e.1) :
    bursts debounce ((start, a) :: inside ++ later) =
      (start, ((start, a) :: inside).map (·.2)) :: bursts debounce later := by
  have early : (inside ++ later).filter (fun e ↦ e.1 < start + debounce) = inside := by
    rw [List.filter_append, List.filter_eq_self.2 (by simpa using before),
      List.filter_eq_nil_iff.2 (by simpa using beyond), List.append_nil]
  have late : since (start + debounce) (inside ++ later) = later := by
    rw [since, List.filter_append, List.filter_eq_nil_iff.2 (by simpa using before),
      List.filter_eq_self.2 (by simpa using beyond), List.nil_append]
  rw [List.cons_append, bursts, early, late, List.map_cons]

theorem Clear.of_append {inside later : List (Nat × α)} {a : α}
    (clear : Clear debounce ((start, a) :: inside ++ later))
    (before : ∀ e ∈ inside, e.1 < start + debounce)
    (beyond : ∀ e ∈ later, start + debounce ≤ e.1) : Clear debounce later := by
  intro burst mem e among
  refine clear burst ?_ e (List.mem_append_right _ among)
  rw [bursts_append a before later beyond]
  exact List.mem_cons_of_mem _ mem

/-- Bursts go by times only. -/
theorem bursts_map (f : α → β) (debounce : Nat) (handed : List (Nat × α)) :
    bursts debounce (handed.map fun e ↦ (e.1, f e.2)) =
      (bursts debounce handed).map fun burst ↦ (burst.1, burst.2.map f) := by
  induction handed using bursts.induct debounce with
  | case1 => simp [bursts]
  | case2 time a later ih =>
    rw [List.map_cons, bursts, bursts, List.map_cons, ← ih]
    simp [since, List.filter_map, Function.comp_def]

theorem clear_map_iff (f : α → β) (debounce : Nat) (handed : List (Nat × α)) :
    Clear debounce (handed.map fun e ↦ (e.1, f e.2)) ↔ Clear debounce handed := by
  rw [Clear, Clear, bursts_map, List.forall_mem_map]
  exact forall₂_congr fun burst _ ↦ List.forall_mem_map

theorem exists_of_mem_bursts {burst : Nat × List α} {a : α} (mem : burst ∈ bursts debounce handed)
    (inside : a ∈ burst.2) : ∃ time, (time, a) ∈ handed := by
  induction handed using bursts.induct debounce with
  | case1 => simp [bursts] at mem
  | case2 time first later ih =>
    rw [bursts, List.mem_cons] at mem
    rcases mem with rfl | mem
    · rcases List.mem_cons.1 inside with rfl | inside
      · exact ⟨time, List.mem_cons_self⟩
      · obtain ⟨e, mem, rfl⟩ := List.mem_map.1 inside
        exact ⟨e.1, List.mem_cons_of_mem _ ((List.mem_filter.1 mem).1)⟩
    · obtain ⟨time, mem⟩ := ih mem
      exact ⟨time, List.mem_cons_of_mem _ ((List.mem_filter.1 mem).1)⟩

end

/-! ## What is handed in -/

structure Arrival where
  id : ComponentId
  /-- It came when the worker was about to take the marks. -/
  late : Bool
  /-- Its wake-up found room. -/
  woke : Bool

def raced (inside : List Arrival) : List ComponentId := (inside.filter (·.late)).map (·.id)

/-- The components that are marked at the end of a span.  Of those that were late only the wake-ups
are left. -/
def remaining (inside : List Arrival) : List ComponentId :=
  (inside.filter fun a ↦ !a.late || a.woke).map (·.id)

/-- The pass over what was late, if anything was. -/
def earlyPass (start : Nat) (inside : List Arrival) : List (Nat × List ComponentId) :=
  if (raced inside).isEmpty then [] else [(start, (IdMap.setOf (raced inside)).keys)]

def passesOf (debounce : Nat) : Nat × List Arrival → List (Nat × List ComponentId)
  | (start, inside) =>
    earlyPass start inside ++ [(start + debounce, (IdMap.setOf (remaining inside)).keys)]

def schedule (handed : List (Nat × Arrival)) : List (Nat × ComponentId) :=
  handed.map fun e ↦ (e.1, e.2.id)

/-- A pass at the end of each span over all components that were handed in during it. -/
def cut (debounce : Nat) (planned : List (Nat × ComponentId)) : List (Nat × List ComponentId) :=
  (bursts debounce planned).map fun burst ↦ (burst.1 + debounce, (IdMap.setOf burst.2).keys)

section

variable {inside : List Arrival} {a : Arrival} {start : Nat}

theorem raced_concat (inside : List Arrival) (a : Arrival) :
    raced (inside ++ [a]) = raced inside ++ if a.late then [a.id] else [] := by
  rw [raced, List.filter_append, List.map_append, ← raced]
  cases late : a.late <;> simp [late]

theorem remaining_concat (inside : List Arrival) (a : Arrival) :
    remaining (inside ++ [a]) = remaining inside ++ if !a.late || a.woke then [a.id] else [] := by
  rw [remaining, List.filter_append, List.map_append, ← remaining]
  cases kept : !a.late || a.woke <;> simp [kept]

theorem earlyPass_concat (punctual : a.late = false) :
    earlyPass start (inside ++ [a]) = earlyPass start inside := by
  rw [earlyPass, raced_concat, punctual, if_neg Bool.false_ne_true, List.append_nil, ← earlyPass]

theorem time_of_mem_earlyPass {start : Nat} {inside : List Arrival} :
    ∀ pass ∈ earlyPass start inside, pass.1 = start := by
  intro pass mem
  rw [earlyPass] at mem
  split at mem
  · cases mem
  · rw [List.mem_singleton.1 mem]

/-- Once the first span is over, all passes of its burst have been, and those of the others are as
if there had been nothing before. -/
theorem filter_passesOf_append {inside later : List (Nat × Arrival)} {debounce time : Nat}
    (a : Arrival) (before : ∀ e ∈ inside, e.1 < start + debounce)
    (beyond : ∀ e ∈ later, start + debounce ≤ e.1) (ended : start + debounce ≤ time) :
    ((bursts debounce ((start, a) :: inside ++ later)).flatMap (passesOf debounce)).filter
        (·.1 ≤ time) =
      passesOf debounce (start, ((start, a) :: inside).map (·.2)) ++
        ((bursts debounce later).flatMap (passesOf debounce)).filter (·.1 ≤ time) := by
  rw [bursts_append a before later beyond, List.flatMap_cons, List.filter_append]
  congr 1
  refine List.filter_eq_self.2 fun pass mem ↦ decide_eq_true ?_
  rw [passesOf, List.mem_append, List.mem_singleton] at mem
  rcases mem with mem | rfl
  · rw [time_of_mem_earlyPass pass mem]
    omega
  · exact ended

/-- Where nothing is late, a burst has one pass over all of it. -/
theorem passesOf_of_punctual {burst : Nat × List Arrival} (debounce : Nat)
    (punctual : ∀ a ∈ burst.2, a.late = false) : passesOf debounce burst =
      [(burst.1 + debounce, (IdMap.setOf (burst.2.map (·.id))).keys)] := by
  obtain ⟨start, inside⟩ := burst
  have raced : raced inside = [] := by
    rw [Worker.raced, List.filter_eq_nil_iff.2 fun a mem ↦ by simp [punctual a mem], List.map_nil]
  have remaining : remaining inside = inside.map (·.id) := by
    rw [Worker.remaining, List.filter_eq_self.2 fun a mem ↦ by simp [punctual a mem]]
  rw [passesOf, earlyPass, raced, remaining]
  rfl

/-- Where nothing is late, the passes are the greedy cut. -/
theorem flatMap_passesOf {handed : List (Nat × Arrival)} (debounce : Nat)
    (punctual : ∀ e ∈ handed, e.2.late = false) :
    (bursts debounce handed).flatMap (passesOf debounce) =
      cut debounce (schedule handed) := by
  rw [cut, schedule, bursts_map, List.map_map, List.map_eq_flatMap]
  refine List.flatMap_congr fun burst mem ↦ passesOf_of_punctual debounce fun a inside ↦ ?_
  obtain ⟨time, among⟩ := exists_of_mem_bursts mem inside
  exact punctual _ among

end

end Cascade.Worker
