import Cascade.Proofs.Deployment.Moves
import Cascade.Proofs.Evaluation.Look
import Cascade.Proofs.Ingestion.Answers
import Cascade.Proofs.Settings.Resolution

/-!
# Settings that are accepted leave nothing open

Names are looked up when settings are resolved, when checks are, and when signals come in, and ids
when a pass looks at components and at their thresholds.  In a deployment of settings that were
accepted no look-up that hangs on an earlier one fails (`Complete`): whatever happens, no pass
misses a threshold or passes over a marked component, and no check reports about an unknown one.
`complete_of_reaches` says so.
-/

namespace Cascade

open Ingestion Evaluation Store

namespace Settings

variable {s : Settings} {t : Topology} {roster : Roster} {mention : Mention} {name : String}
  {id : ComponentId} {entry : CheckEntry} {c : Health.Check} {checks : List Health.Check}

theorem lookUp_eq_ok_iff :
    lookUp roster mention name = .ok id ↔ roster.idOf? (Text.trim name) = some id := by
  unfold lookUp
  cases roster.idOf? (Text.trim name) with
  | none => simp
  | some known => simp

/-- A check that is accepted is of a known component. -/
theorem idOf?_of_resolve (h : entry.resolve roster = .ok c) :
    ∃ id, roster.idOf? c.component = some id := by
  unfold CheckEntry.resolve at h
  simp only [bind_eq_ok_iff] at h
  obtain ⟨id, found, kind, -, interval, -, h⟩ := h
  split at h
  · cases h
  · obtain ⟨timeout, -, h⟩ := bind_eq_ok_iff.1 h
    cases h
    exact ⟨id, lookUp_eq_ok_iff.1 found⟩

theorem idOf?_of_mem_checks (h : resolveChecks t s = .ok checks) (mem : c ∈ checks) :
    ∃ id, t.roster.idOf? c.component = some id := by
  obtain ⟨entry, -, resolved⟩ := exists_related (mapM_eq_ok_iff.1 h).flip mem
  exact idOf?_of_resolve resolved

end Settings

namespace Ingestion

theorem Roster.idOf?_eq_some_iff {r : Roster} {name : String} {id : ComponentId} :
    r.idOf? name = some id ↔ name ∈ r ∧ ComponentId.ofName name = id := by
  unfold idOf?
  split
  · rename_i mem
    simp [mem]
  · rename_i absent
    simp [absent]

end Ingestion

namespace Deployment

/-- A deployment of a topology and checks before anything happened to it. -/
structure Begins (t : Topology) (checks : List Health.Check) (d : Deployment) : Prop where
  topology : d.topology = t
  checks : d.checks = checks
  marks : d.site.marks.ids = ∅
  queue : d.site.queue.items = []
  worker : d.worker.worker = none
  tickers : d.tickers = []

/-- A deployment that is set up is one of accepted settings. -/
theorem begins_of_setUp {s : Settings} {store : Backend} {outside : Outside} {d : Deployment}
    (up : setUp s store outside = .ok d) : Topology.resolve s = .ok d.topology ∧
      Settings.resolveChecks d.topology s = .ok d.checks ∧ Begins d.topology d.checks d := by
  unfold setUp at up
  simp only [bind_eq_ok_iff] at up
  obtain ⟨⟨spans, topology, checks⟩, resolved, -, -, queue, made, up⟩ := up
  cases up
  have resolved := of_mapError_eq_ok resolved
  unfold resolve at resolved
  simp only [bind_eq_ok_iff] at resolved
  obtain ⟨_, -, _, accepted, _, checked, eq⟩ := resolved
  cases eq
  refine ⟨accepted, checked, rfl, rfl, rfl, ?_, rfl, rfl⟩
  have made := of_mapError_eq_ok made
  unfold Worker.Queue.make at made
  split at made
  · cases made
    rfl
  · cases made

/-- Nothing that a deployment of settings looks up is missing. -/
structure Complete (s : Settings) (d : Deployment) : Prop where
  /-- A known name is that of a component with a threshold, in which nothing is zero. -/
  known {name : String} {id : ComponentId} : d.topology.roster.idOf? name = some id →
    id ∈ d.topology.graph ∧ ∃ th, d.topology.thresholds.get? id = some th ∧
      0 < th.critical ∧ 0 < th.degraded ∧ 0 < th.window.nanos ∧ 0 < th.recovery.nanos
  /-- A threshold is made of the limits of a declared component and the spans of the settings. -/
  limits {id : ComponentId} {th : Threshold} : d.topology.thresholds.get? id = some th →
    ∃ name ∈ d.topology.roster, ComponentId.ofName name = id ∧
      ∃ p, s.evaluation.resolve = .ok p ∧ Settings.thresholdOf s.limits p name = .ok th
  /-- A check is of a known name. -/
  checks {c : Health.Check} : c ∈ d.checks → ∃ id, d.topology.roster.idOf? c.component = some id
  /-- A check that runs is one of these. -/
  tickers {t : Ticker} : t ∈ d.tickers → t.check ∈ d.checks
  /-- No report of a check is refused for its component. -/
  reports {c : Health.Check} {now : Time.Instant} {severity : Severity} : c ∈ d.checks →
    (Ingestion.ingest d.topology.roster now (Health.report c now severity) d.site).1 ≠
      .ok .unknownComponent
  /-- Whatever is marked, woken for or in a pass is a component. -/
  components : d.worker.Holds (· ∈ d.topology.graph)
  /-- No pass misses a threshold. -/
  thresholds {fresh : ComponentId → IncidentId} {now : Time.Instant} {id : ComponentId} :
    (runAnnounced (accessWithin Backend.access) (publisher d.outside) d.topology.setup fresh
      d.site.marks.ids now d.site.world).1 ≠ .error (.missingThreshold id)
  /-- A pass that goes through has a state of every marked component. -/
  states {fresh : ComponentId → IncidentId} {now : Time.Instant} {r : Report} :
    (runAnnounced (accessWithin Backend.access) (publisher d.outside) d.topology.setup fresh
      d.site.marks.ids now d.site.world).1 = .ok r → ∀ id ∈ d.site.marks.ids, id ∈ r.isolated

variable {s : Settings} {t : Topology} {checks : List Health.Check} {d d' : Deployment}

theorem Begins.holds (begins : Begins t checks d) (Q : ComponentId → Prop) : d.worker.Holds Q where
  site.marks c mem := by
    rw [show d.worker.site.marks.ids = ∅ from begins.marks] at mem
    cases mem
  site.queue c mem := by
    rw [show d.worker.site.queue.items = [] from begins.queue] at mem
    cases mem
  pass running := by
    rw [begins.worker] at running
    cases running

/-- A signal of a known component is not refused for it. -/
theorem ingest_ne_unknown {roster : Roster} {id : ComponentId} (submission : Submission)
    (known : roster.idOf? submission.component = some id) (now : Time.Instant) (site : Site) :
    (Ingestion.ingest roster now submission site).1 ≠ .ok .unknownComponent := by
  have answered := answered_ingest roster now submission site
  generalize Ingestion.ingest roster now submission site = answer at answered ⊢
  cases answered with
  | unknown unknown => cases known.symm.trans unknown
  | _ => nofun

/-- Whatever happens to a deployment of accepted settings, nothing that it looks up is missing. -/
theorem complete_of_reaches (resolved : Topology.resolve s = .ok t)
    (checked : Settings.resolveChecks t s = .ok checks) (begins : Begins t checks d)
    (reached : d.Reaches d') : Complete s d' := by
  obtain ⟨p, resolves⟩ := Topology.resolve_eq_ok_iff.1 resolved
  have keeps := reached.keeps
  have topology : d'.topology = t := keeps.topology.trans begins.topology
  have own : d'.checks = checks := keeps.checks.trans begins.checks
  have component {name : String} {id : ComponentId} (known : t.roster.idOf? name = some id) :
      id ∈ t.graph := by
    obtain ⟨declared, rfl⟩ := Roster.idOf?_eq_some_iff.1 known
    exact resolves.mem_graph.2 ⟨name, declared, rfl⟩
  have threshold {id : ComponentId} (mem : id ∈ t.graph) :
      ∃ th, t.thresholds.get? id = some th := by
    obtain ⟨name, declared, rfl⟩ := resolves.mem_graph.1 mem
    exact IdMap.mem_iff.1 (resolves.mem_thresholds declared)
  have named {c : Health.Check} (mem : c ∈ checks) : ∃ id, t.roster.idOf? c.component = some id :=
    Settings.idOf?_of_mem_checks checked mem
  have components : d'.worker.Holds (· ∈ t.graph) :=
    reached.holds (begins.topology.symm ▸ component) (begins.holds _)
  constructor
  · intro name id known
    rw [topology] at known ⊢
    obtain ⟨th, found⟩ := threshold (component known)
    exact ⟨component known, th, found, th.critical_pos, th.degraded_pos, th.window_pos,
      th.recovery_pos⟩
  · intro id th found
    rw [topology] at found ⊢
    obtain ⟨name, declared, eq, made⟩ := resolves.of_threshold found
    exact ⟨name, declared, eq, p, resolves.spans, made⟩
  · intro c mem
    rw [topology]
    exact named (own ▸ mem)
  · intro ticker mem
    rw [keeps.checks]
    exact keeps.tickers (fun t old ↦ absurd old (begins.tickers ▸ List.not_mem_nil)) ticker mem
  · intro c now severity mem
    rw [topology]
    obtain ⟨id, known⟩ := named (own ▸ mem)
    exact ingest_ne_unknown (Health.report c now severity) known now _
  · exact topology ▸ components
  · intro fresh now id missing
    rw [runAnnounced_fst, topology] at missing
    obtain ⟨-, mem, lacks⟩ := of_run_missing missing
    obtain ⟨th, found⟩ := threshold mem
    rw [show t.setup.thresholds.get? id = (t.thresholds.get? id).or none from rfl, found] at lacks
    cases lacks
  · intro fresh now r ok id marked
    rw [runAnnounced_fst, topology] at ok
    exact mem_isolated_of_run ok marked (components.site.marks id marked)

/-- Settings that name a component with blanks around it here and there. -/
def spaced : Settings := { Settings.standard with
  components := [" db ", "web"]
  dependencies := [⟨"db ", "web"⟩]
  limits := .ofList [("db", ⟨1, 2⟩), ("web", ⟨1, 1⟩)]
  checks := [⟨" db", "http", "http://db/", "10s", "1s", 1, 200, none, none⟩] }

/-- A round of their check marks a component, and nothing is missing then. -/
theorem complete_spaced : ∃ t checks d d', Topology.resolve spaced = .ok t ∧
    Settings.resolveChecks t spaced = .ok checks ∧ Begins t checks d ∧ d.Reaches d' ∧
    ComponentId.ofName "db" ∈ d'.site.marks.ids ∧ Complete spaced d' := by
  have marks : ((setUp spaced (.memory .empty) outage).toOption.any fun d ↦ d.checks.any fun c ↦
      decide (ComponentId.ofName "db" ∈ (d.runCheck c).site.marks.ids)) = true := by
    decide +kernel
  cases up : setUp spaced (.memory .empty) outage with
  | error e =>
    rw [up] at marks
    cases marks
  | ok d =>
    rw [up] at marks
    obtain ⟨c, own, marked⟩ := List.any_eq_true.1 marks
    obtain ⟨resolved, checked, begins⟩ := begins_of_setUp up
    have reached : d.Reaches (d.runCheck c) := .single (.check own)
    exact ⟨d.topology, d.checks, d, _, resolved, checked, begins, reached, of_decide_eq_true marked,
      complete_of_reaches resolved checked begins reached⟩

end Deployment

end Cascade
