import Cascade.Proofs.Except
import Cascade.Proofs.Graph.Order
import Cascade.Proofs.IdMap
import Cascade.Settings.Topology
import Mathlib.Tactic.SplitIfs

/-!
# What settings come to when they are accepted

Settings that are accepted went through every step of their resolution (`Topology.Resolves`).  From
that, the components of the graph are those of the declared names (`Resolves.mem_graph`), and every
declared name has a threshold (`Resolves.mem_thresholds`) whose spans are those of the settings
(`Resolves.of_threshold`).
-/

namespace Cascade

namespace Settings

/-- The parts of a threshold that is made. -/
theorem of_make {critical degraded : Nat} {window recovery : Time.Span} {th : Threshold}
    (h : Threshold.make critical degraded window recovery = .ok th) :
    th.critical = critical ∧ th.degraded = degraded ∧ th.window = window ∧
      th.recovery = recovery := by
  unfold Threshold.make at h
  split_ifs at h
  cases h
  exact ⟨rfl, rfl, rfl, rfl⟩

/-- The spans of a component's threshold are those of the settings. -/
theorem of_thresholdOf {limits : NameMap Limits} {p : Spans} {name : String} {th : Threshold}
    (h : thresholdOf limits p name = .ok th) :
    th.window = .ofMillis p.window ∧ th.recovery = .ofMillis p.recoveryWindow := by
  unfold thresholdOf at h
  split at h
  · cases h
  · split at h
    · rename_i made
      cases h
      exact (of_make made).2.2
    · cases h

end Settings

namespace Topology

open Settings

def entryOf (s : Settings) (p : Spans) (name : String) :
    Except SettingsError (ComponentId × Threshold) :=
  (thresholdOf s.limits p name).map fun th ↦ (ComponentId.ofName name, th)

/-- The steps by which settings come to a topology. -/
structure Resolves (s : Settings) (p : Spans) (t : Topology) : Prop where
  spans : s.evaluation.resolve = .ok p
  roster : declare [] s.components = .ok t.roster
  edges : s.dependencies.mapM (resolveDependency t.roster) = .ok t.edges
  limits : ∃ ids, s.limits.names.mapM (lookUp t.roster .limits) = .ok ids
  thresholds : ∃ own, t.roster.mapM (entryOf s p) = .ok own ∧ t.thresholds = .ofList own
  graph : Graph.build (t.roster.map ComponentId.ofName) t.edges = .ok t.graph

variable {s : Settings} {t : Topology} {p : Spans} {id : ComponentId} {name : String}
  {th : Threshold}

/-- Settings are accepted exactly if they go through every step. -/
theorem resolve_eq_ok_iff : resolve s = .ok t ↔ ∃ p, Resolves s p t := by
  unfold resolve
  simp only [bind_eq_ok_iff]
  constructor
  · rintro ⟨p, spans, roster, declared, edges, found, ids, limits, own, thresholds, h⟩
    split at h
    · cases h
    · rename_i graph
      cases h
      exact ⟨p, spans, declared, found, ⟨ids, limits⟩, ⟨own, thresholds, rfl⟩, graph⟩
  · rintro ⟨p, spans, roster, edges, ⟨ids, limits⟩, ⟨own, thresholds, eq⟩, graph⟩
    refine ⟨p, spans, t.roster, roster, t.edges, edges, ids, limits, own, thresholds, ?_⟩
    rw [graph, ← eq]

namespace Resolves

/-- The components of the graph are those of the declared names. -/
theorem mem_graph (h : Resolves s p t) :
    id ∈ t.graph ↔ ∃ name ∈ t.roster, ComponentId.ofName name = id := by
  show id ∈ t.graph.nodes ↔ _
  rw [(Graph.of_build h.graph).1, IdMap.mem_setOf]
  exact List.mem_map

/-- Every declared name has a threshold. -/
theorem mem_thresholds (h : Resolves s p t) (declared : name ∈ t.roster) :
    ComponentId.ofName name ∈ t.thresholds := by
  obtain ⟨own, found, eq⟩ := h.thresholds
  obtain ⟨_, mem, made⟩ := exists_related (mapM_eq_ok_iff.1 found) declared
  obtain ⟨th, -, rfl⟩ := exists_of_map_eq_ok made
  rw [eq]
  exact IdMap.mem_ofList.2 ⟨th, mem⟩

/-- A threshold is that of a declared name. -/
theorem of_threshold (h : Resolves s p t) (known : t.thresholds.get? id = some th) :
    ∃ name ∈ t.roster, ComponentId.ofName name = id ∧ thresholdOf s.limits p name = .ok th := by
  obtain ⟨own, found, eq⟩ := h.thresholds
  rw [eq] at known
  obtain ⟨name, declared, made⟩ :=
    exists_related (mapM_eq_ok_iff.1 found).flip (IdMap.of_get?_ofList known)
  obtain ⟨th, own, ⟨⟩⟩ := exists_of_map_eq_ok made
  exact ⟨name, declared, rfl, own⟩

end Resolves

end Topology

end Cascade
