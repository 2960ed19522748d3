import Cascade.Graph.Topology
import Cascade.Proofs.IdMap
import Cascade.Proofs.Since
import Mathlib.Data.List.Nodup
import Mathlib.Data.List.Perm.Subperm

/-!
# The order of a graph

Placing keeps account of how many needed components are missing for each component.  A component
is placed or ready exactly when none is missing, and no component is placed or ready twice
(`Placing.Sound`).  So where every component is placed, the order of the graph lists each
component once: `Graph.Built.mem_order` and `Graph.Built.nodup_order`.  It lists each component
after all that can reach it: `Graph.Built.mem_of_reaches_order`.
-/

namespace Cascade

theorem Adjacency.nodup_next (a : Adjacency) (id : ComponentId) : (a.next id).Nodup := by
  unfold next
  split
  · exact List.nodup_nil
  · exact IdMap.nodup_keys _

/-- The edges of an adjacency are those that lead from a component to one that follows it. -/
theorem Adjacency.mem_edges {a : Adjacency} {u d : ComponentId} :
    (⟨u, d⟩ : Edge) ∈ a.edges ↔ d ∈ a.next u := by
  rw [edges, List.mem_flatMap]
  constructor
  · rintro ⟨⟨k, s⟩, entry, mem⟩
    obtain ⟨d', hd, eq⟩ := List.mem_map.1 mem
    cases eq
    have follow : a.next k = s.keys := by
      rw [next, IdMap.get?_eq_some_iff.2 entry]
    exact follow ▸ hd
  · intro follows
    rw [next] at follows
    split at follows
    · cases follows
    · rename_i s found
      exact ⟨(u, s), IdMap.get?_eq_some_iff.1 found, List.mem_map.2 ⟨d, follows, rfl⟩⟩

/-- One component follows another along edges exactly if that one follows it along the edges turned
round. -/
theorem Adjacency.mem_next_flip {edges : List Edge} {u d : ComponentId} :
    d ∈ (ofEdges edges).next u ↔ u ∈ (ofEdges (edges.map Edge.flip)).next d := by
  rw [mem_next_ofEdges, mem_next_ofEdges, List.mem_map]
  constructor
  · intro h
    exact ⟨_, h, rfl⟩
  · rintro ⟨⟨x, y⟩, h, eq⟩
    cases eq
    exact h

namespace Placing

/-! ### Releasing components -/

theorem release_placed (p : Progress) (id : ComponentId) : (p.release id).placed = p.placed := by
  unfold Progress.release
  split <;> rfl

theorem release_waiting (p : Progress) (id k : ComponentId) :
    (p.release id).waiting.get? k =
      if id = k then (p.waiting.get? k).map (· - 1) else p.waiting.get? k := by
  unfold Progress.release
  split
  · rename_i none
    by_cases h : id = k
    · subst h
      simp [none]
    · rw [if_neg h]
  · rename_i n some
    rw [IdMap.get?_insert]
    by_cases h : id = k
    · subst h
      simp [some]
    · rw [if_neg h, if_neg h]

/-- A released component is ready if it waited for one more at most. -/
theorem release_ready (p : Progress) (id : ComponentId) :
    (p.release id).ready =
      p.ready ++ [id].filter fun k ↦ (p.waiting.get? k).map (· - 1) == some 0 := by
  unfold Progress.release
  split
  · rename_i none
    simp [none]
  · rename_i n some
    by_cases h : n - 1 = 0 <;> simp [some, h]

/-- Releasing different components: each waits for one less, and those that wait for none join the
ready ones. -/
theorem foldl_release {ds : List ComponentId} (nodup : ds.Nodup) (p : Progress) :
    (ds.foldl Progress.release p).placed = p.placed ∧
    (∀ k, (ds.foldl Progress.release p).waiting.get? k =
      if k ∈ ds then (p.waiting.get? k).map (· - 1) else p.waiting.get? k) ∧
    (ds.foldl Progress.release p).ready =
      p.ready ++ ds.filter fun k ↦ (p.waiting.get? k).map (· - 1) == some 0 := by
  induction ds generalizing p with
  | nil => simp
  | cons d ds ih =>
    obtain ⟨new, nodup⟩ := List.nodup_cons.1 nodup
    obtain ⟨placed, waiting, ready⟩ := ih nodup (p.release d)
    have other : ∀ k ∈ ds, (p.release d).waiting.get? k = p.waiting.get? k := by
      intro k hk
      have ne : d ≠ k := fun eq ↦ new (eq ▸ hk)
      rw [release_waiting, if_neg ne]
    refine ⟨placed.trans (release_placed p d), ?_, ?_⟩
    · intro k
      rw [List.foldl_cons, waiting]
      by_cases hk : k ∈ ds
      · rw [if_pos hk, other k hk, if_pos (List.mem_cons_of_mem _ hk)]
      · rw [if_neg hk, release_waiting]
        by_cases h : d = k
        · subst h
          simp
        · simp [h, Ne.symm h, hk]
    · rw [List.foldl_cons, ready, release_ready, List.append_assoc]
      have same : ds.filter (fun k ↦ ((p.release d).waiting.get? k).map (· - 1) == some 0) =
          ds.filter fun k ↦ (p.waiting.get? k).map (· - 1) == some 0 :=
        List.filter_congr fun k hk ↦ by rw [other k hk]
      rw [same, ← List.filter_append]
      rfl

/-- What a step does: the first ready component is placed and what follows it released. -/
theorem step_eq_some_iff {downstream : Adjacency} {p q : Progress} :
    p.step downstream = some q ↔ ∃ c rest, p.ready = c :: rest ∧
      q = (downstream.next c).foldl Progress.release
        { p with ready := rest, placed := p.placed ++ [c] } := by
  unfold Progress.step
  cases ready : p.ready with
  | nil => simp
  | cons c rest =>
    constructor
    · intro next
      cases next
      exact ⟨c, rest, rfl, rfl⟩
    · rintro ⟨c, rest, ⟨⟩, rfl⟩
      rfl

/-! ### What is missing -/

/-- How many of the components that a component needs are not placed. -/
def missing (upstream : Adjacency) (placed : List ComponentId) (id : ComponentId) : Nat :=
  (upstream.next id).countP fun u ↦ u ∉ placed

theorem missing_eq_zero_iff {upstream : Adjacency} {placed : List ComponentId} {id : ComponentId} :
    missing upstream placed id = 0 ↔ ∀ u ∈ upstream.next id, u ∈ placed := by
  simp [missing]

theorem countP_notMem_snoc {l placed : List ComponentId} {c : ComponentId} (nodup : l.Nodup)
    (new : c ∉ placed) :
    l.countP (fun u ↦ u ∉ placed) =
      l.countP (fun u ↦ u ∉ placed ++ [c]) + if c ∈ l then 1 else 0 := by
  induction l with
  | nil => rfl
  | cons u l ih =>
    obtain ⟨hu, nodup⟩ := List.nodup_cons.1 nodup
    rw [List.countP_cons, List.countP_cons, ih nodup]
    by_cases h : u = c
    · subst h
      rw [if_neg hu, if_pos List.mem_cons_self]
      simp [new]
    · have member : c ∈ u :: l ↔ c ∈ l := by simp [Ne.symm h]
      have same : u ∉ placed ++ [c] ↔ u ∉ placed := by simp [h]
      simp only [member, same]
      omega

/-- Placing a component leaves one less missing for those that need it. -/
theorem missing_snoc {upstream : Adjacency} {placed : List ComponentId} {c : ComponentId}
    (new : c ∉ placed) (id : ComponentId) :
    missing upstream placed id =
      missing upstream (placed ++ [c]) id + if c ∈ upstream.next id then 1 else 0 :=
  countP_notMem_snoc (upstream.nodup_next id) new

/-! ### The account -/

/-- The account that placing keeps. -/
structure Sound (nodes : IdSet) (upstream : Adjacency) (p : Progress) : Prop where
  /-- Nothing is placed or ready twice. -/
  nodup : (p.placed ++ p.ready).Nodup
  /-- What is placed or ready has nothing missing, and the other way round. -/
  mem_iff : ∀ id, id ∈ p.placed ++ p.ready ↔ id ∈ nodes ∧ missing upstream p.placed id = 0
  /-- Every component waits for what is missing. -/
  waiting_eq : ∀ id, p.waiting.get? id =
    if id ∈ nodes then some (missing upstream p.placed id) else none

theorem sound_start (nodes : IdSet) (upstream : Adjacency) :
    Sound nodes upstream (start nodes upstream) where
  nodup := nodes.nodup_keys.sublist List.filter_sublist
  mem_iff id := by
    simp [start, IdMap.mem_keys, missing_eq_zero_iff, List.eq_nil_iff_forall_not_mem]
  waiting_eq id := by
    by_cases h : id ∈ nodes
    · obtain ⟨v, hv⟩ := IdMap.mem_iff.1 h
      simp [start, h, hv, missing]
    · simp [start, h, IdMap.not_mem_iff.1 h]

variable {nodes : IdSet} {downstream upstream : Adjacency}

/-- One more component placed keeps the account. -/
theorem Sound.step (dual : ∀ u d, d ∈ downstream.next u ↔ u ∈ upstream.next d) {p q : Progress}
    (sound : Sound nodes upstream p) (next : p.step downstream = some q) :
    Sound nodes upstream q := by
  obtain ⟨c, rest, ready, rfl⟩ := step_eq_some_iff.1 next
  obtain ⟨nodup, mem_iff, waiting_eq⟩ := sound
  rw [ready] at nodup mem_iff
  have new : c ∉ p.placed := fun h ↦
    List.disjoint_of_nodup_append nodup h List.mem_cons_self
  obtain ⟨placed, waiting, joined⟩ := foldl_release (downstream.nodup_next c)
    { p with ready := rest, placed := p.placed ++ [c] }
  dsimp only at placed waiting joined
  have less := @missing_snoc upstream _ _ new
  -- a component joins the ready ones if `c` was the last that it missed
  have mem_joined : ∀ id, id ∈ (downstream.next c).filter
      (fun k ↦ (p.waiting.get? k).map (· - 1) == some 0) ↔
      id ∈ nodes ∧ c ∈ upstream.next id ∧ missing upstream p.placed id = 1 := by
    intro id
    rw [List.mem_filter, dual, waiting_eq]
    by_cases h : id ∈ nodes
    · have := less id
      simp only [h, if_true, Option.map_some, beq_iff_eq, Option.some.injEq, true_and]
      refine and_congr_right fun hc ↦ ?_
      rw [if_pos hc] at this
      omega
    · simp [h]
  refine ⟨?_, ?_, ?_⟩
  · rw [placed, joined, ← List.append_assoc, List.append_assoc _ [c], List.singleton_append]
    refine List.nodup_append'.2 ⟨nodup, (downstream.nodup_next c).sublist List.filter_sublist, ?_⟩
    intro id old fresh
    have zero := ((mem_iff id).1 old).2
    have one := ((mem_joined id).1 fresh).2.2
    omega
  · intro id
    rw [placed, joined, ← List.append_assoc, List.append_assoc _ [c], List.singleton_append,
      List.mem_append, mem_iff, mem_joined]
    have := less id
    by_cases hc : c ∈ upstream.next id
    · rw [if_pos hc] at this
      constructor
      · rintro (⟨h, _⟩ | ⟨h, _, _⟩) <;> exact ⟨h, by omega⟩
      · rintro ⟨h, zero⟩
        exact .inr ⟨h, hc, by omega⟩
    · rw [if_neg hc] at this
      simp [hc, this]
  · intro id
    rw [waiting, waiting_eq, placed]
    have := less id
    by_cases h : id ∈ nodes
    · simp only [h, if_true, dual, Option.map_some]
      split
      · rename_i hc
        rw [if_pos hc] at this
        exact congrArg some (by omega)
      · rename_i hc
        rw [if_neg hc] at this
        exact congrArg some (by omega)
    · simp [h]

theorem Sound.run (dual : ∀ u d, d ∈ downstream.next u ↔ u ∈ upstream.next d) {n : Nat}
    {p : Progress} (sound : Sound nodes upstream p) :
    Sound nodes upstream (run downstream n p) := by
  induction n generalizing p with
  | zero => exact sound
  | succ n ih =>
    rw [Placing.run]
    cases next : p.step downstream with
    | none => exact sound
    | some q => exact ih (sound.step dual next)

theorem nodup_order (dual : ∀ u d, d ∈ downstream.next u ↔ u ∈ upstream.next d) :
    (order nodes downstream upstream).Nodup :=
  ((sound_start nodes upstream).run dual).nodup.sublist (List.sublist_append_left _ _)

/-- Only components are placed. -/
theorem mem_of_mem_order (dual : ∀ u d, d ∈ downstream.next u ↔ u ∈ upstream.next d)
    {id : ComponentId} (h : id ∈ order nodes downstream upstream) : id ∈ nodes :=
  ((((sound_start nodes upstream).run dual).mem_iff id).1 (List.mem_append_left _ h)).1

/-! ### What is needed comes first -/

/-- Every component of a list comes after all that it needs. -/
def NeedsFirst (upstream : Adjacency) (placed : List ComponentId) : Prop :=
  ∀ before c after, placed = before ++ c :: after → ∀ u ∈ upstream.next c, u ∈ before

theorem NeedsFirst.snoc {placed : List ComponentId} {c : ComponentId}
    (first : NeedsFirst upstream placed) (all : ∀ u ∈ upstream.next c, u ∈ placed) :
    NeedsFirst upstream (placed ++ [c]) := by
  intro before k after eq
  rcases snoc_eq_split_iff.1 eq with ⟨-, rfl, rfl⟩ | ⟨rest, -, eq⟩
  · exact all
  · exact first before k rest eq

/-- A ready component is placed after all that it needs. -/
theorem Sound.needsFirst_step {p q : Progress} (sound : Sound nodes upstream p)
    (first : NeedsFirst upstream p.placed) (next : p.step downstream = some q) :
    NeedsFirst upstream q.placed := by
  obtain ⟨c, rest, ready, rfl⟩ := step_eq_some_iff.1 next
  obtain ⟨placed, -, -⟩ := foldl_release (downstream.nodup_next c)
    { p with ready := rest, placed := p.placed ++ [c] }
  rw [placed]
  have none_missing := ((sound.mem_iff c).1 (by simp [ready])).2
  exact first.snoc (missing_eq_zero_iff.1 none_missing)

theorem Sound.needsFirst_run (dual : ∀ u d, d ∈ downstream.next u ↔ u ∈ upstream.next d) {n : Nat}
    {p : Progress} (sound : Sound nodes upstream p) (first : NeedsFirst upstream p.placed) :
    NeedsFirst upstream (Placing.run downstream n p).placed := by
  induction n generalizing p with
  | zero => exact first
  | succ n ih =>
    rw [Placing.run]
    cases next : p.step downstream with
    | none => exact first
    | some q => exact ih (sound.step dual next) (sound.needsFirst_step first next)

theorem needsFirst_order (dual : ∀ u d, d ∈ downstream.next u ↔ u ∈ upstream.next d) :
    NeedsFirst upstream (order nodes downstream upstream) := by
  refine (sound_start nodes upstream).needsFirst_run dual ?_
  intro before c after eq
  exact absurd eq.symm (by simp [start])

/-- What reaches a component stands before it. -/
theorem NeedsFirst.mem_of_reaches (dual : ∀ u d, d ∈ downstream.next u ↔ u ∈ upstream.next d)
    {placed : List ComponentId} (first : NeedsFirst upstream placed) {u d : ComponentId}
    (h : downstream.Reaches u d) {before after : List ComponentId}
    (split : placed = before ++ d :: after) : u ∈ before := by
  induction h generalizing before after with
  | edge needs => exact first _ _ _ split _ ((dual _ _).1 needs)
  | step _ needs ih =>
    have middle := first _ _ _ split _ ((dual _ _).1 needs)
    obtain ⟨front, back, rfl⟩ := List.append_of_mem middle
    exact List.mem_append_left _ (ih (by simpa using split))

end Placing

/-! ### Graphs that were built -/

namespace Graph

/-- The graph was built from declared components and dependencies. -/
def Built (g : Graph) : Prop := ∃ components edges, build components edges = .ok g

/-- What building a graph gives. -/
theorem of_build {components : List ComponentId} {edges : List Edge} {g : Graph}
    (h : build components edges = .ok g) :
    g.nodes = IdMap.setOf components ∧ g.downstream = .ofEdges edges ∧
    g.upstream = .ofEdges (edges.map Edge.flip) ∧
    g.order = Placing.order g.nodes g.downstream g.upstream ∧ g.order.length = g.nodes.size := by
  unfold build at h
  dsimp only at h
  split at h
  · cases h
  · split at h
    · rename_i all
      cases h
      exact ⟨rfl, rfl, rfl, rfl, all⟩
    · cases h

/-- A graph that was built has dependencies between its components only. -/
theorem declared_of_build {components : List ComponentId} {edges : List Edge} {g : Graph}
    (h : build components edges = .ok g) {u d : ComponentId} (needs : d ∈ g.downstream.next u) :
    u ∈ g ∧ d ∈ g := by
  obtain ⟨nodes, down, -⟩ := of_build h
  have edge := Adjacency.mem_edges.2 needs
  unfold build at h
  dsimp only at h
  split at h
  · cases h
  · rename_i faultless
    rw [down] at edge
    have sound := List.findSome?_eq_none_iff.1 faultless _ edge
    rw [← nodes, faultOf] at sound
    split at sound
    · rename_i upper
      split at sound
      · rename_i lower
        exact ⟨upper, lower⟩
      · cases sound
    · cases sound

namespace Built

variable {g : Graph}

/-- What stands downstream of a component stands so because that component stands upstream of it. -/
theorem mem_downstream (built : g.Built) {u d : ComponentId} :
    d ∈ g.downstream.next u ↔ u ∈ g.upstream.next d := by
  obtain ⟨components, edges, h⟩ := built
  obtain ⟨-, down, up, -, -⟩ := of_build h
  rw [down, up]
  exact Adjacency.mem_next_flip

theorem nodup_order (built : g.Built) : g.order.Nodup := by
  have dual := fun u d ↦ built.mem_downstream (u := u) (d := d)
  obtain ⟨components, edges, h⟩ := built
  obtain ⟨-, -, -, order, -⟩ := of_build h
  rw [order]
  exact Placing.nodup_order dual

theorem mem_order (built : g.Built) {id : ComponentId} : id ∈ g.order ↔ id ∈ g := by
  have nodup := built.nodup_order
  have dual := fun u d ↦ built.mem_downstream (u := u) (d := d)
  obtain ⟨components, edges, h⟩ := built
  obtain ⟨-, -, -, order, size⟩ := of_build h
  have inside : ∀ k ∈ g.order, k ∈ g.nodes.keys := by
    intro k hk
    rw [order] at hk
    exact IdMap.mem_keys.2 (Placing.mem_of_mem_order dual hk)
  have all : g.nodes.keys.length ≤ g.order.length :=
    Nat.le_of_eq (g.nodes.length_keys.trans size.symm)
  have perm : g.order.Perm g.nodes.keys := (nodup.subperm inside).perm_of_length_le all
  rw [perm.mem_iff, IdMap.mem_keys]
  rfl

theorem needsFirst_order (built : g.Built) : Placing.NeedsFirst g.upstream g.order := by
  have dual := fun u d ↦ built.mem_downstream (u := u) (d := d)
  obtain ⟨components, edges, h⟩ := built
  obtain ⟨-, -, -, order, -⟩ := of_build h
  rw [order]
  exact Placing.needsFirst_order dual

/-- Ways lead between components of the graph. -/
theorem mem_of_reaches (built : g.Built) {u d : ComponentId} (h : g.Reaches u d) :
    u ∈ g ∧ d ∈ g := by
  obtain ⟨components, edges, built⟩ := built
  induction h with
  | edge needs => exact declared_of_build built needs
  | step _ needs ih => exact ⟨ih.1, (declared_of_build built needs).2⟩

/-- What reaches a component stands before it in the order. -/
theorem mem_of_reaches_order (built : g.Built) {u d : ComponentId} (h : g.Reaches u d)
    {before after : List ComponentId} (order : g.order = before ++ d :: after) : u ∈ before :=
  built.needsFirst_order.mem_of_reaches (fun _ _ ↦ built.mem_downstream) h order

end Built

end Graph

end Cascade
