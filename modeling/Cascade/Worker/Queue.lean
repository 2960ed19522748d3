import Cascade.Decimal.Binary64
import Cascade.Signal.Basic
import Cascade.Worker.Error

/-!
# The queue of wake-ups

A wake-up names a component whose signals changed.  The queue has room for a fixed number of them;
a wake-up that finds no room is dropped, and so is one that comes after the queue was closed.

`items_push_of_room` says that a wake-up that finds room goes to the end of the queue.
-/

namespace Cascade.Worker

/-- A bounded queue of wake-ups. -/
structure Queue where
  /-- The wake-ups, the next one first. -/
  items : List ComponentId
  capacity : Nat
  closed : Bool
  capacity_pos : 0 < capacity
  items_le : items.length ≤ capacity

namespace Queue

/-- The empty queue with room for a number of wake-ups, which must not be zero. -/
def make (capacity : Nat) : Except LoopError Queue :=
  if h : 0 < capacity then .ok ⟨[], capacity, false, h, Nat.zero_le _⟩
  else .error .invalidCapacity

def canAccept (q : Queue) : Bool := q.items.length < q.capacity

def push (id : ComponentId) (q : Queue) : Bool × Queue :=
  if q.closed then (false, q)
  else if h : q.items.length < q.capacity then
    (true, ⟨q.items ++ [id], q.capacity, q.closed, q.capacity_pos, by
      rw [List.length_append]; exact h⟩)
  else (false, q)

def pop? (q : Queue) : Option (ComponentId × Queue) :=
  match h : q.items with
  | [] => none
  | id :: rest =>
    some (id, ⟨rest, q.capacity, q.closed, q.capacity_pos, by
      have := q.items_le
      rw [h, List.length_cons] at this
      exact Nat.le_of_succ_le this⟩)

def close (q : Queue) : Queue := ⟨[], q.capacity, true, q.capacity_pos, Nat.zero_le _⟩

/-- How full the queue is, from 0 to 1. -/
def utilization (q : Queue) : Decimal.Binary64 := .ofRatio false q.items.length q.capacity

/-- A wake-up that finds room goes to the end of an open queue. -/
theorem items_push_of_room {q : Queue} (id : ComponentId) (o : q.closed = false)
    (r : q.canAccept = true) : (q.push id).2.items = q.items ++ [id] := by
  have h : q.items.length < q.capacity := by simpa [canAccept] using r
  simp [push, o, h]

/-- A wake-up that is not added leaves the queue as it was. -/
theorem push_of_not_added {q : Queue} {id : ComponentId} (h : (q.push id).1 = false) :
    (q.push id).2 = q := by
  unfold push at *
  split
  · rfl
  · split
    · rename_i c r
      simp [c, r] at h
    · rfl

/-- What is taken from the queue stood first in it. -/
theorem items_of_pop? {q r : Queue} {id : ComponentId} (h : q.pop? = some (id, r)) :
    q.items = id :: r.items := by
  unfold pop? at h
  split at h
  · cases h
  · rename_i rest eq
    cases h
    exact eq

end Queue

end Cascade.Worker
