import Cascade.Proofs.Graph.Closure
import Cascade.Proofs.Graph.Construction
import Mathlib.Order.Lattice.Nat

/-!
# Nearer components come first

The distance of a component from another is the number of steps of a shortest way (`distance`).

The search of `Adjacency.explore` is followed turn by turn (`Adjacency.turn`), without a bound.  A
component has a turn as often as it was put into the queue; it is listed at the first and passed
over at the others.  Before and after every turn the queue holds components of two layers, first
those that are `k` steps away from the start, and behind them those that are `k + 1` steps away
(`Adjacency.Layered`).  So what is listed is as near as anything that is still to come.

`Graph.closures_of_build` puts together what the two searches in a graph list.
-/

namespace Cascade

/-! ### Distances -/

/-- A way of this many steps, one or more, leads from one thing to another. -/
inductive Steps {α : Type*} (r : α → α → Prop) : ℕ → α → α → Prop where
  | one {u d : α} (h : r u d) : Steps r 1 u d
  | snoc {n : ℕ} {u m d : α} (h : Steps r n u m) (k : r m d) : Steps r (n + 1) u d

/-- The number of steps of a shortest way. -/
noncomputable def distance {α : Type*} (r : α → α → Prop) (u d : α) : ℕ :=
  sInf {n | Steps r n u d}

section

variable {α : Type*} {r : α → α → Prop} {u m d : α} {n : ℕ}

theorem Steps.cons (h : r u m) (way : Steps r n m d) : Steps r (n + 1) u d := by
  induction way with
  | one k => exact (Steps.one h).snoc k
  | snoc _ k ih => exact (ih h).snoc k

/-- The same steps lead back where each leads back. -/
theorem Steps.swap (way : Steps r n u d) : Steps (Function.swap r) n d u := by
  induction way with
  | one h => exact .one h
  | snoc _ k ih => exact .cons k ih

theorem exists_steps_iff : (∃ n, Steps r n u d) ↔ Relation.TransGen r u d := by
  constructor
  · rintro ⟨n, way⟩
    induction way with
    | one h => exact .single h
    | snoc _ k ih => exact ih.tail k
  · intro way
    induction way with
    | single h => exact ⟨1, .one h⟩
    | tail _ k ih =>
      obtain ⟨n, way⟩ := ih
      exact ⟨n + 1, way.snoc k⟩

theorem Steps.distance_le (way : Steps r n u d) : distance r u d ≤ n :=
  Nat.sInf_le way

/-- If there is a way at all, there is one of as many steps as the distance. -/
theorem Steps.shortest (way : Steps r n u d) : Steps r (distance r u d) u d := by
  have some_way : {n | Steps r n u d}.Nonempty := ⟨n, way⟩
  exact Nat.sInf_mem some_way

theorem distance_swap : distance (Function.swap r) d u = distance r u d := by
  have same : {n | Steps (Function.swap r) n d u} = {n | Steps r n u d} := by
    ext n
    exact ⟨Steps.swap, Steps.swap⟩
  rw [distance, same, distance]

end

namespace Edge

/-- An edge of a list leads from one component to another. -/
def Joins (edges : List Edge) (u d : ComponentId) : Prop := ⟨u, d⟩ ∈ edges

/-- The number of edges of a shortest way from one component to another. -/
noncomputable def distance (edges : List Edge) : ComponentId → ComponentId → ℕ :=
  Cascade.distance (Joins edges)

/-- Where a way leads, one has as many edges as the distance, and none has fewer. -/
theorem Leads.isLeast_distance {edges : List Edge} {u d : ComponentId} (way : Leads edges u d) :
    IsLeast {n | Steps (Joins edges) n u d} (distance edges u d) := by
  obtain ⟨n, way⟩ := exists_steps_iff.2 way
  exact ⟨way.shortest, fun _ other ↦ other.distance_le⟩

end Edge

/-! ### The search turn by turn -/

/-- A search under way. -/
structure Search where
  queue : List ComponentId
  seen : List ComponentId

namespace Adjacency

variable {a : Adjacency} {start c : ComponentId} {s t : Search}

/-- One turn of a search.  There is none when no component waits. -/
def turn (a : Adjacency) : Search → Option Search
  | ⟨[], _⟩ => none
  | ⟨c :: queue, seen⟩ =>
    some (if c ∈ seen then ⟨queue, seen⟩ else ⟨queue ++ a.next c, seen ++ [c]⟩)

/-- Any number of turns lead from one search to another. -/
def Turns (a : Adjacency) : Search → Search → Prop :=
  Relation.ReflTransGen fun s t ↦ a.turn s = some t

theorem turn_eq_some_iff : a.turn s = some t ↔ ∃ c queue, s.queue = c :: queue ∧
    (c ∈ s.seen ∧ t = ⟨queue, s.seen⟩ ∨ c ∉ s.seen ∧ t = ⟨queue ++ a.next c, s.seen ++ [c]⟩) := by
  obtain ⟨queue, seen⟩ := s
  cases queue with
  | nil => simp [turn]
  | cons c queue =>
    by_cases old : c ∈ seen <;> simp [turn, old, eq_comm]

/-- What every turn keeps is kept by any number of turns. -/
theorem Turns.keep {P : Search → Prop} (turns : a.Turns s t)
    (step : ∀ s t, a.turn s = some t → P s → P t) (h : P s) : P t := by
  induction turns with
  | refl => exact h
  | tail _ k ih => exact step _ _ k ih

/-- Taking one turn after another ends, with what the bounded search lists, if the bound allows for
what waits and for the edges ahead. -/
theorem turns_explore {n : ℕ} {queue seen : List ComponentId}
    (enough : queue.length + a.ahead seen ≤ n) :
    a.Turns ⟨queue, seen⟩ ⟨[], a.explore n queue seen⟩ := by
  induction n generalizing queue seen with
  | zero =>
    have none : queue = [] := List.length_eq_zero_iff.1 (by omega)
    subst none
    exact .refl
  | succ n ih =>
    cases queue with
    | nil => exact .refl
    | cons c queue =>
      rw [List.length_cons] at enough
      rw [explore]
      split
      · rename_i old
        exact .head (by rw [turn, if_pos old]) (ih (by omega))
      · rename_i new
        have fewer := ahead_snoc (a := a) new
        exact .head (by rw [turn, if_neg new]) (ih (by rw [List.length_append]; omega))

theorem turns_reachable (a : Adjacency) (start : ComponentId) :
    a.Turns ⟨a.next start, []⟩ ⟨[], a.reachable start⟩ :=
  turns_explore (by rw [ahead_nil, Nat.add_comm])

theorem nodup_reachable (a : Adjacency) (start : ComponentId) : (a.reachable start).Nodup := by
  refine (a.turns_reachable start).keep (P := fun s ↦ s.seen.Nodup) (fun s t next nodup ↦ ?_)
    List.nodup_nil
  obtain ⟨c, queue, -, ⟨-, rfl⟩ | ⟨new, rfl⟩⟩ := turn_eq_some_iff.1 next
  · exact nodup
  · exact List.concat_eq_append ▸ nodup.concat new

/-! ### Layers -/

/-- One component follows another. -/
def Follows (a : Adjacency) (u d : ComponentId) : Prop := d ∈ a.next u

/-- The queue of a search holds components that are `k` steps away from the start before those that
are `k + 1` steps away. -/
structure Layered (a : Adjacency) (start : ComponentId) (k : ℕ) (near far : List ComponentId)
    (s : Search) : Prop where
  pos : 0 < k
  queue_eq : s.queue = near ++ far
  near_steps : ∀ x ∈ near, Steps a.Follows k start x
  far_steps : ∀ x ∈ far, Steps a.Follows (k + 1) start x
  /-- All that is nearer was listed. -/
  seen_of_lt : ∀ n x, n < k → Steps a.Follows n start x → x ∈ s.seen
  seen_or_near : ∀ x, Steps a.Follows k start x → x ∈ s.seen ∨ x ∈ near
  known : Known a s.queue s.seen
  /-- Nothing was listed that is farther. -/
  distance_le : ∀ x ∈ s.seen, distance a.Follows start x ≤ k
  ascending : s.seen.Pairwise fun x y ↦ distance a.Follows start x ≤ distance a.Follows start y

namespace Layered

variable {k : ℕ} {near far : List ComponentId}

theorem initial (a : Adjacency) (start : ComponentId) :
    Layered a start 1 (a.next start) [] ⟨a.next start, []⟩ where
  pos := Nat.one_pos
  queue_eq := (List.append_nil _).symm
  near_steps _ mem := .one mem
  far_steps := by simp
  seen_of_lt n x lt way := by cases way <;> omega
  seen_or_near x way := by
    cases way with
    | one h => exact .inr h
    | snoc way _ => cases way
  known := by simp [Known]
  distance_le := by simp
  ascending := .nil

/-- When the first layer is done, the second is the first. -/
theorem advance (layered : Layered a c k [] far s) : Layered a c (k + 1) far [] s where
  pos := k.succ_pos
  queue_eq := layered.queue_eq.trans (List.append_nil far).symm
  near_steps := layered.far_steps
  far_steps := by simp
  seen_of_lt n x lt way := by
    rcases Nat.lt_succ_iff_lt_or_eq.1 lt with lt | rfl
    · exact layered.seen_of_lt n x lt way
    · exact (layered.seen_or_near x way).resolve_right List.not_mem_nil
  seen_or_near x way := by
    have pos := layered.pos
    cases way with
    | one => omega
    | snoc way last =>
      have before := (layered.seen_or_near _ way).resolve_right List.not_mem_nil
      have known := layered.known _ before x last
      rwa [layered.queue_eq, List.nil_append] at known
  known := layered.known
  distance_le x mem := (layered.distance_le x mem).trans k.le_succ
  ascending := layered.ascending

theorem known_append (layered : Layered a start k near far s) : Known a (near ++ far) s.seen :=
  layered.queue_eq ▸ layered.known

/-- A component of the first layer that was listed is passed over. -/
theorem pass (layered : Layered a start k (c :: near) far s) (old : c ∈ s.seen) :
    Layered a start k near far ⟨near ++ far, s.seen⟩ where
  pos := layered.pos
  queue_eq := rfl
  near_steps x mem := layered.near_steps x (List.mem_cons_of_mem _ mem)
  far_steps := layered.far_steps
  seen_of_lt := layered.seen_of_lt
  seen_or_near x way := by
    rcases layered.seen_or_near x way with seen | mem
    · exact .inl seen
    · rcases List.mem_cons.1 mem with rfl | mem
      · exact .inl old
      · exact .inr mem
  known := Known.pass layered.known_append old
  distance_le := layered.distance_le
  ascending := layered.ascending

/-- A component of the first layer that was not listed is exactly `k` steps away. -/
theorem distance_eq (layered : Layered a start k (c :: near) far s) (new : c ∉ s.seen) :
    distance a.Follows start c = k := by
  have way := layered.near_steps c List.mem_cons_self
  by_contra ne
  exact new (layered.seen_of_lt _ c (lt_of_le_of_ne way.distance_le ne) way.shortest)

/-- A component of the first layer that was not listed is listed, and what follows it joins the
second layer. -/
theorem list (layered : Layered a start k (c :: near) far s) (new : c ∉ s.seen) :
    Layered a start k near (far ++ a.next c) ⟨near ++ far ++ a.next c, s.seen ++ [c]⟩ where
  pos := layered.pos
  queue_eq := List.append_assoc ..
  near_steps x mem := layered.near_steps x (List.mem_cons_of_mem _ mem)
  far_steps x mem := by
    rcases List.mem_append.1 mem with mem | follows
    · exact layered.far_steps x mem
    · exact (layered.near_steps c List.mem_cons_self).snoc follows
  seen_of_lt n x lt way := List.mem_append_left _ (layered.seen_of_lt n x lt way)
  seen_or_near x way := by
    rcases layered.seen_or_near x way with seen | mem
    · exact .inl (List.mem_append_left _ seen)
    · rcases List.mem_cons.1 mem with rfl | mem
      · exact .inl (List.mem_append_right _ List.mem_cons_self)
      · exact .inr mem
  known := Known.list layered.known_append
  distance_le x mem := by
    rcases List.mem_append.1 mem with mem | mem
    · exact layered.distance_le x mem
    · rw [List.mem_singleton.1 mem, layered.distance_eq new]
  ascending := by
    refine List.pairwise_append.2 ⟨layered.ascending, List.pairwise_singleton .., ?_⟩
    intro x mem y eq
    rw [List.mem_singleton.1 eq, layered.distance_eq new]
    exact layered.distance_le x mem

/-- A turn of a component of the first layer. -/
theorem turn (layered : Layered a start k (c :: near) far s) (next : a.turn s = some t) :
    ∃ far', Layered a start k near far' t := by
  obtain ⟨c', queue, waits, moved⟩ := turn_eq_some_iff.1 next
  obtain ⟨rfl, rfl⟩ : c = c' ∧ near ++ far = queue :=
    List.cons.inj (layered.queue_eq.symm.trans waits)
  rcases moved with ⟨old, rfl⟩ | ⟨new, rfl⟩
  · exact ⟨far, layered.pass old⟩
  · exact ⟨far ++ a.next c, layered.list new⟩

/-- Every turn leaves two layers in the queue. -/
theorem exists_turn (layered : Layered a start k near far s) (next : a.turn s = some t) :
    ∃ k near far, Layered a start k near far t := by
  cases near with
  | cons c near =>
    obtain ⟨far', layered'⟩ := layered.turn next
    exact ⟨k, near, far', layered'⟩
  | nil =>
    obtain ⟨c, queue, waits, -⟩ := turn_eq_some_iff.1 next
    have far_eq : far = c :: queue := layered.queue_eq.symm.trans waits
    subst far_eq
    obtain ⟨far', layered'⟩ := layered.advance.turn next
    exact ⟨k + 1, queue, far', layered'⟩

end Layered

/-- Nearer components are listed before those that are farther. -/
theorem pairwise_reachable (a : Adjacency) (start : ComponentId) : (a.reachable start).Pairwise
    fun x y ↦ distance a.Follows start x ≤ distance a.Follows start y := by
  obtain ⟨k, near, far, layered⟩ := (a.turns_reachable start).keep
    (P := fun s ↦ ∃ k near far, Layered a start k near far s)
    (fun s t next ⟨_, _, _, layered⟩ ↦ layered.exists_turn next)
    ⟨1, a.next start, [], .initial a start⟩
  exact layered.ascending

/-! ### The searches in a graph -/

theorem follows_ofEdges (edges : List Edge) : (ofEdges edges).Follows = Edge.Joins edges := by
  funext u d
  exact propext mem_next_ofEdges

theorem follows_flip (edges : List Edge) :
    (ofEdges (edges.map Edge.flip)).Follows = Function.swap (Edge.Joins edges) := by
  funext d u
  exact propext (mem_next_flip.symm.trans mem_next_ofEdges)

/-- The search from a component ends with a list of what is called for, nearest first. -/
structure Lists (a : Adjacency) (c : ComponentId) (lies : ComponentId → Prop)
    (away : ComponentId → ℕ) (out : List ComponentId) : Prop where
  /-- Turn after turn, beginning with what follows the component, the queue runs empty, and this is
  then listed. -/
  ends : a.Turns ⟨a.next c, []⟩ ⟨[], out⟩
  /-- Nothing is listed twice. -/
  nodup : out.Nodup
  /-- The component itself is not listed. -/
  self : c ∉ out
  /-- What is called for is listed, and nothing else. -/
  mem_iff : ∀ x, x ∈ out ↔ lies x
  /-- What is nearer is listed first. -/
  nearest : out.Pairwise fun x y ↦ away x ≤ away y

/-- A search lists what is called for if that is what can be reached, and not its own start. -/
theorem lists_reachable {lies : ComponentId → Prop} {away : ComponentId → ℕ} (self : ¬ lies c)
    (mem_iff : ∀ x, x ∈ a.reachable c ↔ lies x)
    (away_eq : ∀ x, distance a.Follows c x = away x) : a.Lists c lies away (a.reachable c) where
  ends := a.turns_reachable c
  nodup := a.nodup_reachable c
  self := (mem_iff c).not.2 self
  mem_iff := mem_iff
  nearest := by
    have nearest := a.pairwise_reachable c
    simpa only [away_eq] using nearest

end Adjacency

namespace Graph

variable {components : List ComponentId} {edges : List Edge} {g : Graph}

/-- What the searches from a component in the graph of components and edges list. -/
structure Closures (components : List ComponentId) (edges : List Edge) (g : Graph)
    (c : ComponentId) : Prop where
  /-- All components from which a way leads to the component. -/
  upstream : g.upstream.Lists c (fun u ↦ Edge.Leads edges u c) (fun u ↦ Edge.distance edges u c)
    (g.allUpstream c)
  /-- All components to which a way leads from the component. -/
  downstream : g.downstream.Lists c (fun d ↦ Edge.Leads edges c d)
    (fun d ↦ Edge.distance edges c d) (g.allDownstream c)
  /-- The distance of two components is the number of edges of a shortest way. -/
  shortest : ∀ u d, Edge.Leads edges u d →
    IsLeast {n | Steps (Edge.Joins edges) n u d} (Edge.distance edges u d)
  /-- What is upstream of the component has it downstream. -/
  dual : ∀ u, u ∈ g.allUpstream c ↔ c ∈ g.allDownstream u
  /-- There is nothing upstream or downstream of a component that was not declared. -/
  undeclared : c ∉ components → g.allUpstream c = [] ∧ g.allDownstream c = []

theorem mem_allUpstream_iff (built : build components edges = .ok g) {u c : ComponentId} :
    u ∈ g.allUpstream c ↔ Edge.Leads edges u c :=
  (Built.mem_allUpstream ⟨components, edges, built⟩).trans (reaches_iff_leads built)

theorem mem_allDownstream_iff (built : build components edges = .ok g) {c d : ComponentId} :
    d ∈ g.allDownstream c ↔ Edge.Leads edges c d :=
  Adjacency.mem_reachable.trans (reaches_iff_leads built)

/-- In a graph that was built, the searches from a component list what ways lead to it and from it,
nearest first. -/
theorem closures_of_build (built : build components edges = .ok g) (c : ComponentId) :
    Closures components edges g c := by
  obtain ⟨declared, acyclic⟩ := exists_build_iff.1 ⟨g, built⟩
  obtain ⟨-, down, up, -⟩ := of_build built
  have above : ∀ u, u ∈ g.allUpstream c ↔ Edge.Leads edges u c :=
    fun _ ↦ mem_allUpstream_iff built
  have below : ∀ d, d ∈ g.allDownstream c ↔ Edge.Leads edges c d :=
    fun _ ↦ mem_allDownstream_iff built
  have away_above : ∀ u, distance g.upstream.Follows c u = Edge.distance edges u c := by
    intro u
    rw [up, Adjacency.follows_flip, distance_swap, Edge.distance]
  have away_below : ∀ d, distance g.downstream.Follows c d = Edge.distance edges c d := by
    intro d
    rw [down, Adjacency.follows_ofEdges, Edge.distance]
  refine ⟨Adjacency.lists_reachable (acyclic c) above away_above,
    Adjacency.lists_reachable (acyclic c) below away_below,
    fun _ _ way ↦ way.isLeast_distance, fun u ↦ ?_, fun unknown ↦ ⟨?_, ?_⟩⟩
  · rw [above, mem_allDownstream_iff built]
  · refine List.eq_nil_iff_forall_not_mem.2 fun u mem ↦ ?_
    obtain ⟨m, -, edge⟩ := Relation.TransGen.tail'_iff.1 ((above u).1 mem)
    exact unknown (declared _ edge).2
  · refine List.eq_nil_iff_forall_not_mem.2 fun d mem ↦ ?_
    obtain ⟨m, edge, -⟩ := Relation.TransGen.head'_iff.1 ((below d).1 mem)
    exact unknown (declared _ edge).1

/-- A component that is needed both directly and by way of another has its turn twice, and is listed
once. -/
theorem closures_shortcut : let id (n : UInt8) : ComponentId := ⟨List.replicate 16 n, rfl⟩
    let components := [id 1, id 2, id 3, id 4]
    let edges := [⟨id 1, id 2⟩, ⟨id 2, id 3⟩, ⟨id 3, id 4⟩, ⟨id 2, id 4⟩]
    ∃ g, build components edges = .ok g ∧ g.allUpstream (id 4) = [id 2, id 3, id 1] ∧
      Closures components edges g (id 4) :=
  ⟨_, rfl, rfl, closures_of_build rfl _⟩

end Graph

end Cascade
