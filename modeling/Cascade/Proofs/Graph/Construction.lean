import Cascade.Proofs.Graph.Order
import Cascade.Proofs.Graph.Ways
import Mathlib.Data.Set.Card

/-!
# What building a graph comes to

Placing goes on until no component is ready (`Placing.Sound.ready_run`), so what is left over is
missing something that is left over too, and is blocked: `Graph.mem_placed` says that exactly the
blocked components are not placed.  No component is released that waits for nothing
(`Placing.counted`).

`Graph.construction` puts together what building comes to: a graph, the first undeclared component
in id order, or the number of blocked components, whatever the order of what is declared.
-/

namespace Cascade

/-! ### Placing to the end -/

namespace Placing

variable {nodes : IdSet} {downstream upstream : Adjacency} {p q : Progress}

theorem step_eq_none_iff : p.step downstream = none ↔ p.ready = [] := by
  unfold Progress.step
  cases p.ready <;> simp

theorem length_placed_step (next : p.step downstream = some q) :
    q.placed.length = p.placed.length + 1 := by
  obtain ⟨c, rest, -, rfl⟩ := step_eq_some_iff.1 next
  obtain ⟨placed, -, -⟩ := foldl_release (downstream.nodup_next c)
    { p with ready := rest, placed := p.placed ++ [c] }
  rw [placed]
  exact List.length_append

/-- There are no more components placed and ready than there are components. -/
theorem Sound.length_le (sound : Sound nodes upstream p) :
    p.placed.length + p.ready.length ≤ nodes.size := by
  rw [← List.length_append, ← IdMap.length_keys]
  exact (sound.nodup.subperm fun id h ↦ IdMap.mem_keys.2 ((sound.mem_iff id).1 h).1).length_le

/-- Whenever a component is released on the way to an order, something is missing for it: no count
is taken below zero. -/
def Counted (nodes : IdSet) (downstream upstream : Adjacency) : Prop :=
  ∀ n c rest, (run downstream n (start nodes upstream)).ready = c :: rest →
    ∀ before d after, downstream.next c = before ++ d :: after →
      (before.foldl Progress.release
        { run downstream n (start nodes upstream) with
          ready := rest
          placed := (run downstream n (start nodes upstream)).placed ++ [c] }).waiting.get? d ≠
        some 0

section

variable (dual : ∀ u d, d ∈ downstream.next u ↔ u ∈ upstream.next d)

include dual

/-- With a step for every component that is not placed, placing ends when no component is ready. -/
theorem Sound.ready_run {n : Nat} (sound : Sound nodes upstream p)
    (enough : nodes.size ≤ p.placed.length + n) :
    (Placing.run downstream n p).ready = [] := by
  induction n generalizing p with
  | zero =>
    have most := sound.length_le
    have none_ready : p.ready.length = 0 := by omega
    exact List.length_eq_zero_iff.1 none_ready
  | succ n ih =>
    rw [Placing.run]
    cases next : p.step downstream with
    | none => exact step_eq_none_iff.1 next
    | some q =>
      have := length_placed_step next
      exact ih (sound.step dual next) (by omega)

/-- The account at the end: no component is ready, and those placed are the order. -/
theorem exists_sound_order :
    ∃ p, Sound nodes upstream p ∧ p.ready = [] ∧ order nodes downstream upstream = p.placed := by
  have sound := sound_start nodes upstream
  exact ⟨_, sound.run dual, sound.ready_run dual (Nat.le_add_left ..), rfl⟩

/-- A component is placed exactly if all that it needs is. -/
theorem mem_order {id : ComponentId} :
    id ∈ order nodes downstream upstream ↔
      id ∈ nodes ∧ ∀ u ∈ upstream.next id, u ∈ order nodes downstream upstream := by
  obtain ⟨p, sound, ready, order⟩ := @exists_sound_order nodes downstream upstream dual
  have account := sound.mem_iff id
  rwa [ready, List.append_nil, missing_eq_zero_iff, ← order] at account

/-- A component that follows a ready one waits for it. -/
theorem Sound.waiting_ne_zero (sound : Sound nodes upstream p) {c d : ComponentId}
    (ready : c ∈ p.ready) (follows : d ∈ downstream.next c) : p.waiting.get? d ≠ some 0 := by
  have new : c ∉ p.placed := fun old ↦ List.disjoint_of_nodup_append sound.nodup old ready
  have missed : missing upstream p.placed d = _ := missing_snoc new d
  rw [if_pos ((dual c d).1 follows)] at missed
  rw [sound.waiting_eq]
  split_ifs with node
  · intro zero
    have := Option.some.inj zero
    omega
  · intro none
    cases none

theorem counted : Counted nodes downstream upstream := by
  intro n c rest ready before d after split
  have sound := (sound_start nodes upstream).run (n := n) dual
  generalize run downstream n (start nodes upstream) = p at sound ready
  have nodup : (before ++ d :: after).Nodup := split ▸ downstream.nodup_next c
  obtain ⟨nodup_before, -, apart⟩ := List.nodup_append'.1 nodup
  obtain ⟨-, waiting, -⟩ := foldl_release nodup_before
    { p with ready := rest, placed := p.placed ++ [c] }
  have own : d ∉ before := fun mem ↦ apart mem List.mem_cons_self
  rw [waiting, if_neg own]
  exact sound.waiting_ne_zero dual (ready ▸ List.mem_cons_self) (split ▸ by simp)

end

end Placing

/-! ### Edges and what is declared -/

namespace Edge

def Declared (components : List ComponentId) (e : Edge) : Prop :=
  e.upstream ∈ components ∧ e.downstream ∈ components

instance (components : List ComponentId) (e : Edge) : Decidable (e.Declared components) :=
  inferInstanceAs (Decidable (_ ∧ _))

/-- An edge comes before another in id order, their upstream ends compared first. -/
def Before (e e' : Edge) : Prop :=
  e.upstream < e'.upstream ∨ e.upstream = e'.upstream ∧ e.downstream < e'.downstream

/-- An edge with an undeclared end, and the first in id order. -/
structure FirstFault (components : List ComponentId) (edges : List Edge) (e : Edge) : Prop where
  mem : e ∈ edges
  /-- One of its ends is not declared. -/
  undeclared : ¬ e.Declared components
  /-- It comes before all others that have such an end. -/
  first : ∀ e' ∈ edges, ¬ e'.Declared components → e' ≠ e → e.Before e'

/-- What is wrong with an edge that has an undeclared end, its upstream end looked at first. -/
def fault (components : List ComponentId) (e : Edge) : GraphError :=
  if e.upstream ∈ components then .unknownDownstream e.downstream
  else .unknownUpstream e.upstream

end Edge

namespace Adjacency

/-- The edges are listed in id order. -/
theorem pairwise_edges (a : Adjacency) : a.edges.Pairwise Edge.Before := by
  rw [edges, List.pairwise_flatMap]
  constructor
  · intro e _
    rw [List.pairwise_map]
    exact e.2.pairwise_keys.imp fun lt ↦ .inr ⟨rfl, lt⟩
  · refine a.sorted.imp fun lt e he e' he' ↦ ?_
    obtain ⟨d, -, rfl⟩ := List.mem_map.1 he
    obtain ⟨d', -, rfl⟩ := List.mem_map.1 he'
    exact .inl lt

theorem mem_edges_ofEdges {edges : List Edge} {e : Edge} : e ∈ (ofEdges edges).edges ↔ e ∈ edges :=
  mem_edges.trans mem_next_ofEdges

theorem ofEdges_snoc (edges : List Edge) (e : Edge) :
    ofEdges (edges ++ [e]) = (ofEdges edges).link e := by
  rw [ofEdges, List.foldl_append]
  rfl

/-- A component has followers exactly if an edge leads on from it. -/
theorem mem_ofEdges {edges : List Edge} {u : ComponentId} :
    u ∈ ofEdges edges ↔ ∃ d, (⟨u, d⟩ : Edge) ∈ edges := by
  induction edges using List.reverseRecOn with
  | nil => simp [ofEdges, IdMap.mem_def]
  | append_singleton edges e ih =>
    obtain ⟨x, y⟩ := e
    rw [ofEdges_snoc, IdMap.mem_def, link, IdMap.get?_insert]
    by_cases own : x = u
    · subst own
      simp
    · simp [own, Ne.symm own, ← IdMap.mem_def, ih]

theorem mem_next_iff {a : Adjacency} {u d : ComponentId} {s : IdSet} (found : a.get? u = some s) :
    d ∈ a.next u ↔ d ∈ s := by
  rw [next, found]
  exact IdMap.mem_keys

/-- The adjacency of a list of edges depends only on which edges there are. -/
theorem ofEdges_congr {edges edges' : List Edge} (same : ∀ e, e ∈ edges' ↔ e ∈ edges) :
    ofEdges edges' = ofEdges edges := by
  apply IdMap.ext
  intro u
  have known : u ∈ ofEdges edges' ↔ u ∈ ofEdges edges := by simp only [mem_ofEdges, same]
  cases found : (ofEdges edges).get? u with
  | none => exact IdMap.not_mem_iff.1 (known.not.2 (IdMap.not_mem_iff.2 found))
  | some s =>
    obtain ⟨s', found'⟩ := IdMap.mem_iff.1 (known.2 (IdMap.mem_iff.2 ⟨s, found⟩))
    have eq : s' = s := IdMap.ext_mem fun d ↦ by
      rw [← mem_next_iff found', ← mem_next_iff found, mem_next_ofEdges, mem_next_ofEdges, same]
    rw [found', eq]

end Adjacency

/-! ### Building -/

namespace Graph

variable {components components' : List ComponentId} {edges edges' : List Edge} {c : ComponentId}

/-- The components in the order in which they are placed, those on or beyond a cycle left out. -/
def placed (components : List ComponentId) (edges : List Edge) : List ComponentId :=
  Placing.order (IdMap.setOf components) (.ofEdges edges) (.ofEdges (edges.map Edge.flip))

theorem nodup_placed : (placed components edges).Nodup :=
  Placing.nodup_order fun _ _ ↦ Adjacency.mem_next_flip

/-- A component is placed exactly if all components are from which an edge leads to it. -/
theorem mem_placed_iff : c ∈ placed components edges ↔
    c ∈ components ∧ ∀ u, ⟨u, c⟩ ∈ edges → u ∈ placed components edges := by
  rw [placed, Placing.mem_order fun _ _ ↦ Adjacency.mem_next_flip, IdMap.mem_setOf]
  refine and_congr_right fun _ ↦ forall_congr' fun u ↦ imp_congr_left ?_
  exact Adjacency.mem_next_flip.symm.trans Adjacency.mem_next_ofEdges

/-- What leads to a placed component stands before it. -/
theorem mem_of_leads_placed {u d : ComponentId} (way : Edge.Leads edges u d)
    {before after : List ComponentId} (split : placed components edges = before ++ d :: after) :
    u ∈ before :=
  (Placing.needsFirst_order fun _ _ ↦ Adjacency.mem_next_flip).mem_of_reaches
    (fun _ _ ↦ Adjacency.mem_next_flip) (Adjacency.reaches_ofEdges.2 way) split

theorem not_leads_self_of_placed (mem : c ∈ placed components edges) : ¬ Edge.Leads edges c c := by
  intro cycle
  obtain ⟨before, after, split⟩ := List.append_of_mem mem
  have nodup : (placed components edges).Nodup := nodup_placed
  rw [split] at nodup
  exact List.disjoint_of_nodup_append nodup (mem_of_leads_placed cycle split) List.mem_cons_self

/-- Of declared components exactly those that are not blocked are placed. -/
theorem mem_placed (declared : ∀ e ∈ edges, e.Declared components) :
    c ∈ placed components edges ↔ c ∈ components ∧ ¬ Edge.Blocked edges c := by
  constructor
  · intro mem
    refine ⟨(mem_placed_iff.1 mem).1, ?_⟩
    rintro (cycle | ⟨k, cycle, before⟩)
    · exact not_leads_self_of_placed mem cycle
    · obtain ⟨front, back, split⟩ := List.append_of_mem mem
      have mem_k : k ∈ placed components edges :=
        split ▸ List.mem_append_left _ (mem_of_leads_placed before split)
      exact not_leads_self_of_placed mem_k cycle
  · rintro ⟨known, free⟩
    by_contra left_over
    let rest := components.filter (· ∉ placed components edges)
    -- each component that is left over misses another one that is
    have back : ∀ x ∈ rest, ∃ u ∈ rest, ⟨u, x⟩ ∈ edges := by
      intro x mem
      obtain ⟨known, left_over⟩ := List.mem_filter.1 mem
      by_contra none_missing
      refine of_decide_eq_true left_over (mem_placed_iff.2 ⟨known, fun u edge ↦ ?_⟩)
      by_contra missing
      have left_over' : u ∈ rest := List.mem_filter.2
        ⟨(declared _ edge).1, decide_eq_true missing⟩
      exact none_missing ⟨u, left_over', edge⟩
    exact free (Edge.blocked_of_back back (List.mem_filter.2 ⟨known, decide_eq_true left_over⟩))

/-- The blocked components are those that are left over. -/
theorem exists_left_over (declared : ∀ e ∈ edges, e.Declared components) :
    ∃ rest : List ComponentId, rest.Nodup ∧
      (∀ c, c ∈ rest ↔ c ∈ components ∧ Edge.Blocked edges c) ∧
      (placed components edges).length + rest.length = (IdMap.setOf components).size := by
  let nodes := (IdMap.setOf components).keys
  let rest := nodes.filter (· ∉ placed components edges)
  have nodup : rest.Nodup := (IdMap.nodup_keys _).filter _
  have mem_rest : ∀ c, c ∈ rest ↔ c ∈ components ∧ c ∉ placed components edges := by
    intro c
    rw [List.mem_filter, IdMap.mem_keys, IdMap.mem_setOf, decide_eq_true_iff]
  have all : (placed components edges ++ rest).Perm nodes := by
    refine (List.perm_ext_iff_of_nodup ?_ (IdMap.nodup_keys _)).2 fun c ↦ ?_
    · exact List.nodup_append'.2 ⟨nodup_placed, nodup, fun c hc hr ↦ ((mem_rest c).1 hr).2 hc⟩
    · rw [List.mem_append, mem_rest, IdMap.mem_keys, IdMap.mem_setOf]
      constructor
      · rintro (hc | hc)
        · exact (mem_placed_iff.1 hc).1
        · exact hc.1
      · intro known
        exact (Classical.em _).imp_right fun left_over ↦ ⟨known, left_over⟩
  refine ⟨rest, nodup, fun c ↦ ?_, ?_⟩
  · rw [mem_rest, mem_placed declared, not_and, not_not]
    exact and_congr_right fun known ↦ ⟨fun h ↦ h known, fun h _ ↦ h⟩
  · rw [← List.length_append, all.length_eq, IdMap.length_keys]

/-- There are as many blocked components as are left over. -/
theorem ncard_blocked (declared : ∀ e ∈ edges, e.Declared components) :
    {c | c ∈ components ∧ Edge.Blocked edges c}.ncard =
      (IdMap.setOf components).size - (placed components edges).length := by
  obtain ⟨rest, nodup, mem_rest, count⟩ := exists_left_over declared
  have same : {c | c ∈ components ∧ Edge.Blocked edges c} = (rest.toFinset : Set ComponentId) := by
    ext c
    simp [mem_rest]
  rw [same, Set.ncard_coe_finset, List.toFinset_card_of_nodup nodup]
  omega

/-- Nothing is left over exactly if there is no cycle. -/
theorem length_placed_eq_iff (declared : ∀ e ∈ edges, e.Declared components) :
    (placed components edges).length = (IdMap.setOf components).size ↔ Edge.Acyclic edges := by
  obtain ⟨rest, -, mem_rest, count⟩ := exists_left_over declared
  constructor
  · intro all c cycle
    obtain ⟨d, edge, -⟩ := Relation.TransGen.head'_iff.1 cycle
    have left_over : c ∈ rest := (mem_rest c).2 ⟨(declared _ edge).1, .inl cycle⟩
    have := List.length_pos_of_mem left_over
    omega
  · intro acyclic
    have none_left : rest = [] := List.eq_nil_iff_forall_not_mem.2 fun c left_over ↦
      acyclic.not_blocked ((mem_rest c).1 left_over).2
    rwa [none_left, List.length_nil, Nat.add_zero] at count

/-- What is wrong with an edge is that an end is not declared. -/
theorem faultOf_eq {e : Edge} : faultOf (IdMap.setOf components) e =
    if e.Declared components then none else some (e.fault components) := by
  simp only [faultOf, IdMap.mem_setOf, Edge.Declared, Edge.fault]
  split_ifs <;> simp_all

theorem faultless_iff :
    (Adjacency.ofEdges edges).edges.findSome? (faultOf (IdMap.setOf components)) = none ↔
      ∀ e ∈ edges, e.Declared components := by
  simp [List.findSome?_eq_none_iff, Adjacency.mem_edges_ofEdges, faultOf_eq]

/-- What is found wrong is what is wrong with the first edge that has an undeclared end. -/
theorem exists_firstFault {err : GraphError}
    (found : (Adjacency.ofEdges edges).edges.findSome? (faultOf (IdMap.setOf components)) =
      some err) : ∃ e, Edge.FirstFault components edges e ∧ err = e.fault components := by
  obtain ⟨front, e, back, split, wrong, right⟩ := List.findSome?_eq_some_iff.1 found
  rw [faultOf_eq] at wrong
  split_ifs at wrong with undeclared
  refine ⟨e, ⟨?_, undeclared, ?_⟩, (Option.some.inj wrong).symm⟩
  · exact Adjacency.mem_edges_ofEdges.1 (split ▸ by simp)
  · intro e' mem undeclared' other
    have listed := Adjacency.mem_edges_ofEdges.2 mem
    have sorted := (Adjacency.ofEdges edges).pairwise_edges
    rw [split] at listed sorted
    rcases List.mem_append.1 listed with before | after
    · have fine := right e' before
      rw [faultOf_eq, if_neg undeclared'] at fine
      cases fine
    · have behind := (List.mem_cons.1 after).resolve_left other
      exact (List.pairwise_cons.1 (List.pairwise_append.1 sorted).2.1).1 e' behind

/-- Building refuses undeclared ends first. -/
theorem exists_build_of_undeclared (undeclared : ¬ ∀ e ∈ edges, e.Declared components) :
    ∃ e, Edge.FirstFault components edges e ∧
      build components edges = .error (e.fault components) := by
  cases found : (Adjacency.ofEdges edges).edges.findSome? (faultOf (IdMap.setOf components)) with
  | none => exact absurd (faultless_iff.1 found) undeclared
  | some err =>
    obtain ⟨e, first, rfl⟩ := exists_firstFault found
    refine ⟨e, first, ?_⟩
    rw [build]
    dsimp only
    rw [found]

/-- Where all ends are declared, components are placed. -/
theorem build_of_declared (declared : ∀ e ∈ edges, e.Declared components) :
    build components edges =
      if (placed components edges).length = (IdMap.setOf components).size then
        .ok ⟨IdMap.setOf components, .ofEdges edges, .ofEdges (edges.map Edge.flip),
          placed components edges⟩
      else .error (.cycle ((IdMap.setOf components).size - (placed components edges).length)) := by
  rw [build]
  dsimp only
  rw [faultless_iff.2 declared]
  rfl

/-- A graph is built exactly of declared ends without a cycle. -/
theorem exists_build_iff : (∃ g, build components edges = .ok g) ↔
    (∀ e ∈ edges, e.Declared components) ∧ Edge.Acyclic edges := by
  by_cases declared : ∀ e ∈ edges, e.Declared components
  · rw [build_of_declared declared, ← length_placed_eq_iff declared]
    split_ifs with all
    · exact ⟨fun _ ↦ ⟨declared, all⟩, fun _ ↦ ⟨_, rfl⟩⟩
    · exact iff_of_false (fun ⟨_, built⟩ ↦ nomatch built) fun h ↦ all h.2
  · obtain ⟨e, -, refused⟩ := exists_build_of_undeclared declared
    rw [refused]
    exact iff_of_false (fun ⟨_, built⟩ ↦ nomatch built) fun h ↦ declared h.1

/-- Ways in a graph are ways along the dependencies that it was built from. -/
theorem reaches_iff_leads {g : Graph} (built : build components edges = .ok g)
    {u d : ComponentId} : g.Reaches u d ↔ Edge.Leads edges u d := by
  obtain ⟨-, down, -⟩ := of_build built
  rw [Graph.Reaches, down]
  exact Adjacency.reaches_ofEdges

/-- What is built depends only on which components and which edges there are. -/
theorem build_congr (components_eq : ∀ c, c ∈ components' ↔ c ∈ components)
    (edges_eq : ∀ e, e ∈ edges' ↔ e ∈ edges) :
    build components' edges' = build components edges := by
  have nodes : IdMap.setOf components' = IdMap.setOf components := IdMap.ext_mem fun c ↦ by
    rw [IdMap.mem_setOf, IdMap.mem_setOf, components_eq]
  have down : Adjacency.ofEdges edges' = .ofEdges edges := Adjacency.ofEdges_congr edges_eq
  have up : Adjacency.ofEdges (edges'.map Edge.flip) = .ofEdges (edges.map Edge.flip) :=
    Adjacency.ofEdges_congr fun e ↦ by simp only [List.mem_map, edges_eq]
  rw [build, nodes, down, up, build]

/-- What building the graph of components and edges comes to. -/
structure Construction (components : List ComponentId) (edges : List Edge) : Prop where
  /-- A graph is built exactly if both ends of every edge are declared and no way leads back. -/
  accepted : (∃ g, build components edges = .ok g) ↔
    (∀ e ∈ edges, e.Declared components) ∧ Edge.Acyclic edges
  /-- Its order lists every component once, the upstream end of every edge before the downstream
  end. -/
  ordered : ∀ g, build components edges = .ok g →
    g.order.Nodup ∧ (∀ c, c ∈ g.order ↔ c ∈ components) ∧
    ∀ e ∈ edges, [e.upstream, e.downstream].Sublist g.order
  /-- With an undeclared end, the first such edge is refused, its upstream end looked at first. -/
  undeclared : (¬ ∀ e ∈ edges, e.Declared components) →
    ∃ e, Edge.FirstFault components edges e ∧
      build components edges = .error
        (if e.upstream ∈ components then .unknownDownstream e.downstream
        else .unknownUpstream e.upstream)
  /-- With all ends declared and a cycle, the number of components that lie on a cycle or can be
  reached from one is given. -/
  cyclic : (∀ e ∈ edges, e.Declared components) → ¬ Edge.Acyclic edges →
    build components edges = .error (.cycle {c | c ∈ components ∧ Edge.Blocked edges c}.ncard)
  /-- The order of what is declared and repetitions make no difference. -/
  congr : ∀ components' edges', (∀ c, c ∈ components' ↔ c ∈ components) →
    (∀ e, e ∈ edges' ↔ e ∈ edges) → build components' edges' = build components edges
  /-- No count of what a component waits for is taken below zero. -/
  counted : Placing.Counted (IdMap.setOf components) (.ofEdges edges)
    (.ofEdges (edges.map Edge.flip))

/-- Building gives a graph exactly of dependencies without a cycle, and says otherwise why not. -/
theorem construction (components : List ComponentId) (edges : List Edge) :
    Construction components edges where
  accepted := exists_build_iff
  ordered g built := by
    obtain ⟨declared, acyclic⟩ := exists_build_iff.1 ⟨g, built⟩
    rw [build_of_declared declared, if_pos ((length_placed_eq_iff declared).2 acyclic)] at built
    cases built
    refine ⟨nodup_placed, fun c ↦ ?_, fun e mem ↦ ?_⟩
    · rw [mem_placed declared]
      exact and_iff_left acyclic.not_blocked
    · have lower := (mem_placed declared).2 ⟨(declared e mem).2, acyclic.not_blocked⟩
      obtain ⟨before, after, split⟩ := List.append_of_mem lower
      have before_it := List.singleton_sublist.2 (mem_of_leads_placed (.single mem) split)
      have itself := List.singleton_sublist.2 (List.mem_cons_self (a := e.downstream) (l := after))
      rw [split]
      exact before_it.append itself
  undeclared := exists_build_of_undeclared
  cyclic declared cycle := by
    rw [build_of_declared declared, if_neg fun all ↦ cycle ((length_placed_eq_iff declared).1 all),
      ncard_blocked declared]
  congr _ _ := build_congr
  counted := Placing.counted fun _ _ ↦ Adjacency.mem_next_flip

/-- A component beyond a cycle of two counts as one more that is left over. -/
example : let id (n : UInt8) : ComponentId := ⟨List.replicate 16 n, List.length_replicate⟩
    build [id 3, id 1, id 2] [⟨id 2, id 3⟩, ⟨id 1, id 2⟩, ⟨id 2, id 1⟩] = .error (.cycle 3) :=
  rfl

end Graph

end Cascade
