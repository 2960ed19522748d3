import Cascade.IdMap
import Cascade.Signal.Basic

/-!
# Dependencies

A dependency runs from an upstream component to a downstream component that needs it.  An
adjacency keeps, for each component, the set of those one edge further on.

`mem_next_ofEdges` says that one component follows another exactly if an edge says so, whatever the
order of the edges and however often each is given.
-/

namespace Cascade

structure Edge where
  /-- The component that is needed. -/
  upstream : ComponentId
  /-- The component that needs it. -/
  downstream : ComponentId
deriving DecidableEq, Repr

def Edge.flip (e : Edge) : Edge := ⟨e.downstream, e.upstream⟩

/-- For each component the components one edge further on. -/
abbrev Adjacency := IdMap IdSet

namespace Adjacency

/-- The components one edge further on, in id order. -/
def next (a : Adjacency) (id : ComponentId) : List ComponentId :=
  match a.get? id with
  | none => []
  | some s => s.keys

def link (a : Adjacency) (e : Edge) : Adjacency :=
  a.insert e.upstream (((a.get? e.upstream).getD ∅).add e.downstream)

def ofEdges (edges : List Edge) : Adjacency := edges.foldl link ∅

/-- The edges, each once, by upstream and then by downstream component. -/
def edges (a : Adjacency) : List Edge :=
  a.entries.flatMap fun e ↦ e.2.keys.map fun d ↦ ⟨e.1, d⟩

def edgeCount (a : Adjacency) : Nat := a.edges.length

theorem mem_next_link {a : Adjacency} {e : Edge} {u d : ComponentId} :
    d ∈ (a.link e).next u ↔ (⟨u, d⟩ : Edge) = e ∨ d ∈ a.next u := by
  obtain ⟨x, y⟩ := e
  simp only [next, link, IdMap.get?_insert, Edge.mk.injEq]
  by_cases h : x = u
  · subst h
    simp only [if_true, IdMap.mem_keys, IdMap.mem_def, IdMap.add, IdMap.get?_insert, true_and]
    cases k : a.get? x with
    | none =>
      by_cases hy : y = d <;> simp [hy, Ne.symm]
    | some s =>
      by_cases hy : y = d <;>
        simp [hy, eq_comm (a := d), IdMap.mem_keys, IdMap.mem_def]
  · have h' : u ≠ x := Ne.symm h
    simp [h, h']

/-- One component follows another exactly if an edge says so. -/
theorem mem_next_ofEdges {es : List Edge} {u d : ComponentId} :
    d ∈ (ofEdges es).next u ↔ (⟨u, d⟩ : Edge) ∈ es := by
  have go : ∀ (es : List Edge) (a : Adjacency),
      d ∈ (es.foldl link a).next u ↔ (⟨u, d⟩ : Edge) ∈ es ∨ d ∈ a.next u := by
    intro es
    induction es with
    | nil => simp
    | cons e es ih =>
      intro a
      rw [List.foldl_cons, ih, mem_next_link, List.mem_cons]
      constructor
      · rintro (h | h | h)
        · exact .inl (.inr h)
        · exact .inl (.inl h)
        · exact .inr h
      · rintro ((h | h) | h)
        · exact .inr (.inl h)
        · exact .inl h
        · exact .inr (.inr h)
  rw [ofEdges, go]
  simp [next]

end Adjacency

end Cascade
