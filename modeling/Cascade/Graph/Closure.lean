import Cascade.Graph.Basic

/-!
# Everything that can be reached

A breadth-first search from a component lists what lies one or more edges further on, each
component once and nearer ones first.

`Reaches` is the relation that the search decides.
-/

namespace Cascade.Adjacency

/-- There is a way of one or more edges from a component to another. -/
inductive Reaches (a : Adjacency) : ComponentId → ComponentId → Prop where
  | edge {u d : ComponentId} (h : d ∈ a.next u) : Reaches a u d
  | step {u m d : ComponentId} (h : Reaches a u m) (k : d ∈ a.next m) : Reaches a u d

/-- The search: takes the components of the queue in turn and passes over those already seen.  The
first argument bounds the number of components taken from the queue. -/
def explore (a : Adjacency) : Nat → (queue seen : List ComponentId) → List ComponentId
  | 0, _, seen => seen
  | _ + 1, [], seen => seen
  | n + 1, c :: queue, seen =>
    if c ∈ seen then explore a n queue seen
    else explore a n (queue ++ a.next c) (seen ++ [c])

/-- What lies one or more edges beyond a component, nearest first.  Each edge is put into the queue
once, and the edges of the start once more, which bounds the search. -/
def reachable (a : Adjacency) (start : ComponentId) : List ComponentId :=
  explore a (a.edgeCount + (a.next start).length) (a.next start) []

theorem Reaches.trans {a : Adjacency} {u m d : ComponentId} (h : Reaches a u m)
    (k : Reaches a m d) : Reaches a u d := by
  induction k with
  | edge h' => exact .step h h'
  | step _ h' ih => exact .step ih h'

end Cascade.Adjacency
