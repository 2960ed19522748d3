import Cascade.Graph.Closure
import Mathlib.Data.Fintype.Card
import Mathlib.Data.Set.Finite.Basic
import Mathlib.Logic.Relation

/-!
# Ways along dependencies

A way leads over one or more edges of a list (`Edge.Leads`).  A component is blocked if it lies on a
cycle or if a way leads to it from one that does (`Edge.Blocked`).  What is blocked can be found
without looking for cycles: `Edge.blocked_of_back` says that all components of a list are blocked
if an edge leads to each of them from one of them.

`Adjacency.reaches_ofEdges` says that the adjacency of a list of edges has the ways of the list.
-/

namespace Cascade

namespace Edge

variable {edges : List Edge} {u d c : ComponentId}

/-- There is a way of one or more edges of a list from a component to another. -/
def Leads (edges : List Edge) : ComponentId → ComponentId → Prop :=
  Relation.TransGen fun u d ↦ (⟨u, d⟩ : Edge) ∈ edges

/-- No way leads from a component back to it. -/
def Acyclic (edges : List Edge) : Prop := ∀ c, ¬ Leads edges c c

/-- A component lies on a cycle or can be reached from one that does. -/
def Blocked (edges : List Edge) (c : ComponentId) : Prop :=
  Leads edges c c ∨ ∃ k, Leads edges k k ∧ Leads edges k c

/-- Everything beyond a blocked component is blocked. -/
theorem Blocked.leads (blocked : Blocked edges u) (way : Leads edges u d) : Blocked edges d := by
  rcases blocked with cycle | ⟨k, cycle, before⟩
  · exact .inr ⟨u, cycle, way⟩
  · exact .inr ⟨k, cycle, Relation.TransGen.trans before way⟩

/-- Without cycles nothing is blocked. -/
theorem Acyclic.not_blocked (acyclic : Acyclic edges) : ¬ Blocked edges c := by
  rintro (cycle | ⟨k, cycle, -⟩)
  · exact acyclic c cycle
  · exact acyclic k cycle

/-- Where an edge leads to each component of a list from one of them, all of them are blocked. -/
theorem blocked_of_back {cs : List ComponentId} (back : ∀ c ∈ cs, ∃ u ∈ cs, ⟨u, c⟩ ∈ edges)
    (mem : c ∈ cs) : Blocked edges c := by
  by_contra free
  -- ways order the free components of the list, as none of them lies on a cycle
  let Free := { x // x ∈ cs ∧ ¬ Blocked edges x }
  let before : Free → Free → Prop := fun x y ↦ Leads edges x.1 y.1
  have finite : Finite Free := ((List.finite_toSet cs).subset fun _ h ↦ h.1).to_subtype
  have trans : IsTrans Free before := ⟨fun _ _ _ h k ↦ Relation.TransGen.trans h k⟩
  have irrefl : Std.Irrefl before := ⟨fun x cycle ↦ x.2.2 (.inl cycle)⟩
  have wf : WellFounded before := Finite.wellFounded_of_trans_of_irrefl before
  have never : ∀ x : Free, False := by
    intro x
    induction x using wf.induction with
    | h x earlier =>
      obtain ⟨u, hu, edge⟩ := back x.1 x.2.1
      have way : Leads edges u x.1 := .single edge
      have free : ¬ Blocked edges u := fun blocked ↦ x.2.2 (blocked.leads way)
      exact earlier ⟨u, hu, free⟩ way
  exact never ⟨c, mem, free⟩

end Edge

/-- Ways along the adjacency of a list of edges are ways along the edges. -/
theorem Adjacency.reaches_ofEdges {edges : List Edge} {u d : ComponentId} :
    (ofEdges edges).Reaches u d ↔ Edge.Leads edges u d := by
  constructor
  · intro h
    induction h with
    | edge h => exact .single (mem_next_ofEdges.1 h)
    | step _ k ih => exact .tail ih (mem_next_ofEdges.1 k)
  · intro h
    induction h with
    | single h => exact .edge (mem_next_ofEdges.2 h)
    | tail _ k ih => exact .step ih (mem_next_ofEdges.2 k)

end Cascade
