import Cascade.Alert.Telegram
import Cascade.Proofs.Evaluation.Session
import Mathlib

/-!
# Root causes explain what is critical or impacted

Above every critical component stands a root cause, unless it is one itself: going up from critical
component to critical component ends, as each step leads to an earlier place in the order of the
graph (`State.exists_rootCause`).  So a root cause stands above every impacted component too, and
the message about it names that component (`Alert.Telegram.Writer.nameOf_mem_impacted`).

`explained_run` says so of every pass that answers a report, over any store.
-/

namespace Cascade

namespace State

variable {g : Graph} {states : StateMap} {c d : ComponentId}

/-- Every critical component is a root cause or has one above it. -/
theorem exists_rootCause (built : g.Built) (mem : c ∈ g) (critical : states.isCritical c = true) :
    ∃ d ∈ rootCauses g states, d = c ∨ g.Reaches d c := by
  -- by induction along the order, in which everything above a component stands before it
  have go : ∀ before after, g.order = before ++ after → ∀ k ∈ before,
      states.isCritical k = true → ∃ d ∈ rootCauses g states, d = k ∨ g.Reaches d k := by
    intro before
    induction before using List.reverseRecOn with
    | nil => exact fun _ _ k hk ↦ absurd hk List.not_mem_nil
    | append_singleton before last ih =>
      intro after order k hk critical
      rw [List.append_assoc, List.singleton_append] at order
      rcases List.mem_append.1 hk with hk | hk
      · exact ih _ order k hk critical
      · rw [List.mem_singleton.1 hk] at critical ⊢
        by_cases root : isRoot g states last = true
        · have listed : last ∈ g.order := order ▸ by simp
          exact ⟨last, mem_rootCauses.2 ⟨built.mem_order.1 listed, critical, root⟩, .inl rfl⟩
        · rw [isRoot, Bool.not_eq_true', Bool.not_eq_false, hasCriticalUpstream_iff built] at root
          obtain ⟨u, reaches, above⟩ := root
          obtain ⟨d, cause, higher⟩ := ih _ order u (built.mem_of_reaches_order reaches order) above
          refine ⟨d, cause, .inr ?_⟩
          rcases higher with rfl | higher
          · exact reaches
          · exact higher.trans reaches
  obtain ⟨before, after, order⟩ := List.append_of_mem (built.mem_order.2 mem)
  exact go (before ++ [c]) after (by simpa using order) c (by simp) critical

/-- Nothing critical reaches a root cause. -/
theorem not_reaches_of_mem_rootCauses (built : g.Built) (h : d ∈ rootCauses g states)
    (critical : states.isCritical c = true) : ¬ g.Reaches c d := by
  intro reaches
  obtain ⟨-, -, root⟩ := mem_rootCauses.1 h
  rw [(isRoot_iff built).1 root c reaches] at critical
  cases critical

/-- Every component that is impacted after propagation has a root cause above it. -/
theorem exists_rootCause_of_impacted (built : g.Built) (mem : c ∈ g)
    (impacted : (propagate g states).get? c = some .impacted) :
    ∃ d ∈ rootCauses g (propagate g states), g.Reaches d c := by
  rw [get?_propagate built, if_pos mem, Option.some_inj, effectiveState_eq_impacted_iff,
    hasCriticalUpstream_iff built, ← isCritical_propagate built] at impacted
  obtain ⟨⟨u, reaches, critical⟩, -⟩ := impacted
  obtain ⟨d, cause, higher⟩ := exists_rootCause built (built.mem_of_reaches reaches).1 critical
  refine ⟨d, cause, ?_⟩
  rcases higher with rfl | higher
  · exact reaches
  · exact higher.trans reaches

end State

namespace Alert.Telegram

variable {w : Writer} {g : Graph} {states : StateMap} {i : Incident} {c : ComponentId}

/-- The message about an incident names every impacted component below its root. -/
theorem Writer.nameOf_mem_impacted (below : g.Reaches i.root c)
    (impacted : states.get? c = some .impacted) : w.nameOf c ∈ w.impacted g states i := by
  rw [Writer.impacted, List.mem_mergeSort]
  refine List.mem_map.2 ⟨c, List.mem_filter.2 ⟨Adjacency.mem_reachable.2 below, ?_⟩, rfl⟩
  exact decide_eq_true impacted

theorem mem_intersperse {α : Type} {sep x : α} {l : List α} (h : x ∈ l) :
    x ∈ l.intersperse sep := by
  induction l with
  | nil => cases h
  | cons y l ih =>
    cases l with
    | nil => exact h
    | cons z l =>
      rw [List.intersperse_cons_cons, List.mem_cons, List.mem_cons]
      rcases List.mem_cons.1 h with rfl | h
      · exact .inl rfl
      · exact .inr (.inr (ih h))

/-- Every line stands in a message of lines. -/
theorem infix_unlines {lines : List String} {line : String} (h : line ∈ lines) :
    line.toList <:+: (unlines lines).toList := by
  rw [unlines, String.toList_intercalate, List.intercalate]
  exact List.infix_of_mem_flatten (mem_intersperse (List.mem_map.2 ⟨line, h, rfl⟩))

/-- The impacted components that there are stand in the message in one line. -/
theorem Writer.infix_opened (some_ : w.impacted g states i ≠ []) :
    ("Impacted: " ++ ", ".intercalate (w.impacted g states i)).toList <:+:
      (w.opened g states i).toList := by
  rw [Writer.opened]
  refine infix_unlines ?_
  have line : (w.impacted g states i).isEmpty = false := by simpa using some_
  simp [line]

end Alert.Telegram

namespace Evaluation

open Store Alert

/-- The root causes that a pass reports explain everything that it reports as critical or
impacted. -/
structure Explained (g : Graph) (r : Report) : Prop where
  /-- The root causes are the critical components that nothing critical reaches. -/
  mem_iff : ∀ {c}, c ∈ r.rootCauses ↔ c ∈ g ∧ r.effective.get? c = some .critical ∧
    ∀ u, g.Reaches u c → r.effective.get? u ≠ some .critical
  /-- No root cause needs another. -/
  apart : ∀ {c d}, c ∈ r.rootCauses → d ∈ r.rootCauses → c ∉ g.allUpstream d
  /-- A critical or impacted component is a root cause or needs one. -/
  cause : ∀ {c}, c ∈ g →
    r.effective.get? c = some .critical ∨ r.effective.get? c = some .impacted →
      ∃ d ∈ r.rootCauses, d = c ∨ d ∈ g.allUpstream c
  /-- The name of an impacted component is listed in every message that an incident of some root
  cause opened. -/
  told : ∀ (w : Telegram.Writer) {c}, c ∈ g → r.effective.get? c = some .impacted →
    ∃ d ∈ r.rootCauses, ∀ i : Incident, i.root = d →
      w.nameOf c ∈ w.impacted g r.effective i ∧
      ("Impacted: " ++ ", ".intercalate (w.impacted g r.effective i)).toList <:+:
        (w.opened g r.effective i).toList

section

variable {σ : Type} {a : Access σ} {setup : Setup} {fresh : ComponentId → IncidentId}
  {dirty : IdSet} {now : Time.Instant} {s : σ} {r : Report}

/-- Root causes explain what a pass reports, whatever the store holds. -/
theorem explained_run (built : setup.graph.Built) (ok : (run a setup fresh dirty now s).1 = .ok r) :
    Explained setup.graph r := by
  obtain ⟨stored, active, -, -, -, effective, causes, -⟩ := of_plan (plan_of_run ok)
  -- an impacted component has a root cause above it
  have above : ∀ {c}, c ∈ setup.graph → r.effective.get? c = some .impacted →
      ∃ d ∈ r.rootCauses, setup.graph.Reaches d c := by
    intro c mem impacted
    rw [causes]
    rw [effective] at impacted ⊢
    exact State.exists_rootCause_of_impacted built mem impacted
  refine ⟨?_, ?_, ?_, ?_⟩
  · intro c
    rw [causes, State.mem_rootCauses, State.isRoot_iff built, StateMap.isCritical_iff]
    simp only [← Bool.not_eq_true, StateMap.isCritical_iff, ne_eq]
  · intro c d hc hd upstream
    rw [causes] at hc hd
    obtain ⟨-, critical, -⟩ := State.mem_rootCauses.1 hc
    exact State.not_reaches_of_mem_rootCauses built hd critical (built.mem_allUpstream.1 upstream)
  · rintro c mem (critical | impacted)
    · rw [causes]
      obtain ⟨d, cause, higher⟩ :=
        State.exists_rootCause built mem (StateMap.isCritical_iff.2 critical)
      exact ⟨d, cause, higher.imp id built.mem_allUpstream.2⟩
    · obtain ⟨d, cause, reaches⟩ := above mem impacted
      exact ⟨d, cause, .inr (built.mem_allUpstream.2 reaches)⟩
  · intro w c mem impacted
    obtain ⟨d, cause, reaches⟩ := above mem impacted
    refine ⟨d, cause, ?_⟩
    rintro i rfl
    have named := Telegram.Writer.nameOf_mem_impacted (w := w) reaches impacted
    exact ⟨named, Telegram.Writer.infix_opened (List.ne_nil_of_mem named)⟩

end

namespace Chain

open Pair

/-- A component that needs the lower one of the pair. -/
def lowest : ComponentId := ⟨List.replicate 16 3, List.length_replicate⟩

def graph : Graph :=
  (Graph.build [lowest, lower, upper] [⟨upper, lower⟩, ⟨lower, lowest⟩]).toOption.getD .empty

theorem graph_built : graph.Built :=
  ⟨[lowest, lower, upper], [⟨upper, lower⟩, ⟨lower, lowest⟩], rfl⟩

def setup : Setup := { Pair.setup with graph }

/-- What is kept after the components were heard of. -/
def heard (upmost middle low : Severity) : Memory :=
  (attempt [signal upper upmost 0, signal lower middle 0, signal lowest low 0] [] 0 .none).takeIn
    .empty

/-- The upper component is critical, the lower one degraded and the lowest well by its own signals.
So the lowest is impacted, and the upper is the cause. -/
theorem explained_chain : ∃ r, (run Memory.access setup id (IdMap.setOf [upper, lower, lowest])
      (secondAt 0) (heard .critical .warning .info)).1 = .ok r ∧
    r.effective.values = [.critical, .degraded, .impacted] ∧ r.rootCauses = [upper] ∧
    Explained graph r := by
  have answers : (run Memory.access setup id (IdMap.setOf [upper, lower, lowest]) (secondAt 0)
      (heard .critical .warning .info)).1.map (fun r ↦ (r.effective.values, r.rootCauses)) =
        .ok ([.critical, .degraded, .impacted], [upper]) := by
    set_option maxRecDepth 4000 in cbv
  obtain ⟨r, ok, eq⟩ := exists_of_map_eq_ok answers
  obtain ⟨states, causes⟩ := Prod.mk.inj eq
  have built : setup.graph.Built := graph_built
  exact ⟨r, ok, states, causes, explained_run built ok⟩

end Chain

end Evaluation

end Cascade
