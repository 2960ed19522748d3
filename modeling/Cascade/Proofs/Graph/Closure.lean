import Cascade.Proofs.Graph.Order

/-!
# The search finds what can be reached

Each component that the search takes from its queue was put there by an edge, and the edges of a
component are put there once.  So the edges that are yet to come (`Adjacency.ahead`) and the queue
bound the search, and it ends with an empty queue: what it has seen is then closed under edges.

`Adjacency.mem_reachable` says that the search lists exactly what can be reached, and
`Graph.Built.mem_allUpstream` that everything a component needs is what it can be reached from.
-/

namespace Cascade

namespace Adjacency

variable {a : Adjacency}

/-! ### Ways -/

/-- Where one adjacency has the edges of another turned round, it has the ways turned round. -/
theorem Reaches.flip {b : Adjacency} (dual : ∀ u d, d ∈ a.next u → u ∈ b.next d)
    {u d : ComponentId} (h : a.Reaches u d) : b.Reaches d u := by
  induction h with
  | edge h => exact .edge (dual _ _ h)
  | step _ k ih => exact (Reaches.edge (dual _ _ k)).trans ih

/-! ### The edges ahead -/

/-- The number of edges out of components that were not seen. -/
def ahead (a : Adjacency) (seen : List ComponentId) : Nat :=
  a.edges.countP fun e ↦ e.upstream ∉ seen

theorem ahead_nil (a : Adjacency) : a.ahead [] = a.edgeCount := by
  simp [ahead, edgeCount]

/-- As many edges run out of a component as components follow it. -/
theorem countP_upstream (a : Adjacency) (c : ComponentId) :
    a.edges.countP (fun e ↦ e.upstream = c) = (a.next c).length := by
  have go : ∀ l : List (ComponentId × IdSet), l.Pairwise (·.1 < ·.1) →
      (l.flatMap fun e ↦ e.2.keys.map fun d ↦ (⟨e.1, d⟩ : Edge)).countP (fun e ↦ e.upstream = c) =
        ((IdMap.find c l).map (·.keys.length)).getD 0 := by
    intro l
    induction l with
    | nil => exact fun _ ↦ rfl
    | cons e l ih =>
      intro sorted
      obtain ⟨k, s⟩ := e
      obtain ⟨above, tail⟩ := List.pairwise_cons.1 sorted
      rw [List.flatMap_cons, List.countP_append, List.countP_map, ih tail, IdMap.find]
      by_cases h : k = c
      · subst h
        rw [IdMap.find_eq_none_of_lt above]
        simp [Function.comp_def]
      · simp [Function.comp_def, h]
  rw [edges, go a.entries a.sorted, next]
  show ((a.get? c).map _).getD 0 = _
  cases a.get? c with
  | none => rfl
  | some s => rfl

/-- Seeing one more component leaves the edges of the others ahead. -/
theorem ahead_snoc {seen : List ComponentId} {c : ComponentId} (new : c ∉ seen) :
    a.ahead seen = a.ahead (seen ++ [c]) + (a.next c).length := by
  rw [← countP_upstream, ahead, ahead]
  induction a.edges with
  | nil => rfl
  | cons e l ih =>
    simp only [List.countP_cons, ih]
    by_cases h : e.upstream = c
    · simp [h, new]
      omega
    · simp [h]
      omega

/-! ### The search -/

/-- What the search lists can be reached, if what it begins with can. -/
theorem reaches_of_mem_explore {start : ComponentId} {n : Nat} {queue seen : List ComponentId}
    (waiting : ∀ x ∈ queue, a.Reaches start x) (old : ∀ x ∈ seen, a.Reaches start x)
    {d : ComponentId} (h : d ∈ a.explore n queue seen) : a.Reaches start d := by
  induction n generalizing queue seen with
  | zero => exact old d h
  | succ n ih =>
    cases queue with
    | nil => exact old d h
    | cons c queue =>
      obtain ⟨first, waiting⟩ := List.forall_mem_cons.1 waiting
      rw [explore] at h
      split at h
      · exact ih waiting old h
      · refine ih ?_ ?_ h
        · intro x hx
          rcases List.mem_append.1 hx with hx | hx
          · exact waiting x hx
          · exact first.step hx
        · intro x hx
          rcases List.mem_append.1 hx with hx | hx
          · exact old x hx
          · rw [List.mem_singleton.1 hx]
            exact first

/-- All that follows what was seen was seen or waits in the queue. -/
def Known (a : Adjacency) (queue seen : List ComponentId) : Prop :=
  ∀ x ∈ seen, ∀ y ∈ a.next x, y ∈ seen ∨ y ∈ queue

/-- Nothing is lost by passing over a component that was seen. -/
theorem Known.pass {c : ComponentId} {queue seen : List ComponentId}
    (known : Known a (c :: queue) seen) (old : c ∈ seen) : Known a queue seen := by
  intro x hx y hy
  rcases known x hx y hy with h | h
  · exact .inl h
  · rcases List.mem_cons.1 h with rfl | h
    · exact .inl old
    · exact .inr h

/-- Nothing is lost by listing a component, as what follows it is put into the queue. -/
theorem Known.list {c : ComponentId} {queue seen : List ComponentId}
    (known : Known a (c :: queue) seen) : Known a (queue ++ a.next c) (seen ++ [c]) := by
  intro x hx y hy
  rcases List.mem_append.1 hx with hx | hx
  · rcases known x hx y hy with h | h
    · exact .inl (List.mem_append_left _ h)
    · rcases List.mem_cons.1 h with rfl | h
      · exact .inl (by simp)
      · exact .inr (List.mem_append_left _ h)
  · rw [List.mem_singleton.1 hx] at hy
    exact .inr (List.mem_append_right _ hy)

/-- A search that may take as many components as stand in its queue and as there are edges ahead
lists all that it begins with, and all that follows what it lists. -/
theorem closed_explore {n : Nat} {queue seen : List ComponentId}
    (enough : queue.length + a.ahead seen ≤ n) (known : Known a queue seen) :
    (∀ x, x ∈ seen ∨ x ∈ queue → x ∈ a.explore n queue seen) ∧
    ∀ x ∈ a.explore n queue seen, ∀ y ∈ a.next x, y ∈ a.explore n queue seen := by
  induction n generalizing queue seen with
  | zero =>
    have none : queue = [] := List.length_eq_zero_iff.1 (by omega)
    subst none
    simpa [explore, Known] using known
  | succ n ih =>
    cases queue with
    | nil => simpa [explore, Known] using known
    | cons c queue =>
      rw [List.length_cons] at enough
      rw [explore]
      split
      · rename_i old
        obtain ⟨begins, closed⟩ := ih (by omega) (known.pass old)
        refine ⟨?_, closed⟩
        rintro x (h | h)
        · exact begins x (.inl h)
        · rcases List.mem_cons.1 h with rfl | h
          · exact begins x (.inl old)
          · exact begins x (.inr h)
      · rename_i new
        have fewer := ahead_snoc (a := a) new
        obtain ⟨begins, closed⟩ := ih (by rw [List.length_append]; omega) known.list
        refine ⟨?_, closed⟩
        rintro x (h | h)
        · exact begins x (.inl (List.mem_append_left _ h))
        · rcases List.mem_cons.1 h with rfl | h
          · exact begins x (.inl (by simp))
          · exact begins x (.inr (List.mem_append_left _ h))

/-- The search lists exactly what can be reached. -/
theorem mem_reachable {start d : ComponentId} : d ∈ a.reachable start ↔ a.Reaches start d := by
  constructor
  · exact reaches_of_mem_explore (fun _ hx ↦ .edge hx) (fun x hx ↦ absurd hx List.not_mem_nil)
  · intro h
    have enough : (a.next start).length + a.ahead [] ≤ a.edgeCount + (a.next start).length := by
      rw [ahead_nil]
      omega
    obtain ⟨begins, closed⟩ := closed_explore enough fun x hx ↦ absurd hx List.not_mem_nil
    induction h with
    | edge h => exact begins _ (.inr h)
    | step _ k ih => exact closed _ ih _ k

end Adjacency

/-- Everything that a component needs is what it can be reached from. -/
theorem Graph.Built.mem_allUpstream {g : Graph} (built : g.Built) {u d : ComponentId} :
    u ∈ g.allUpstream d ↔ g.Reaches u d := by
  rw [Graph.allUpstream, Adjacency.mem_reachable]
  constructor
  · exact Adjacency.Reaches.flip fun _ _ h ↦ built.mem_downstream.2 h
  · exact Adjacency.Reaches.flip fun _ _ h ↦ built.mem_downstream.1 h

end Cascade
