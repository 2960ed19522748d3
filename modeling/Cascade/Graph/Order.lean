import Cascade.Graph.Basic

/-!
# Placing components after what they need

Components are placed one after another.  One is ready when everything that it needs is placed;
ready components wait in a queue, at first in id order, and those that a placed component sets free
join the queue in id order.  A component on a cycle, or beyond one, never becomes ready.
-/

namespace Cascade.Placing

/-- How far the placing has come. -/
structure Progress where
  /-- For each component the number of components that it needs and that are not placed. -/
  waiting : IdMap Nat
  /-- The components that can be placed, in the order of their turn. -/
  ready : List ComponentId
  placed : List ComponentId

/-- One component that `id` waited for has been placed; it is ready if that was the last. -/
def Progress.release (p : Progress) (id : ComponentId) : Progress :=
  match p.waiting.get? id with
  | none => p
  | some n =>
    { p with
      waiting := p.waiting.insert id (n - 1)
      ready := if n - 1 = 0 then p.ready ++ [id] else p.ready }

/-- Places the first ready component and releases the components downstream of it. -/
def Progress.step (downstream : Adjacency) (p : Progress) : Option Progress :=
  match p.ready with
  | [] => none
  | c :: rest =>
    some ((downstream.next c).foldl Progress.release
      { p with ready := rest, placed := p.placed ++ [c] })

/-- Nothing is placed and every component waits for all that it needs. -/
def start (nodes : IdSet) (upstream : Adjacency) : Progress where
  waiting := nodes.map fun id _ ↦ (upstream.next id).length
  ready := nodes.keys.filter fun id ↦ (upstream.next id).isEmpty
  placed := []

/-- Goes on placing, for at most as many steps as the first argument says. -/
def run (downstream : Adjacency) : Nat → Progress → Progress
  | 0, p => p
  | n + 1, p =>
    match p.step downstream with
    | none => p
    | some q => run downstream n q

/-- The components in the order in which they are placed, those on or beyond a cycle left out.  No
component is placed twice, so there are at most as many steps as components. -/
def order (nodes : IdSet) (downstream upstream : Adjacency) : List ComponentId :=
  (run downstream nodes.size (start nodes upstream)).placed

end Cascade.Placing
