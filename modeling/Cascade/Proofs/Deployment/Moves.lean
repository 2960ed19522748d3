import Cascade.Deployment.Schedule
import Cascade.Proofs.Http.Service
import Cascade.Proofs.Time.Timeline
import Cascade.Proofs.Worker.Step
import Mathlib.Logic.Relation

/-!
# What can happen to a deployment

Signals are handed in, directly or by requests, checks have their rounds, the worker is started and
stopped and goes on, time passes, and stores begin and cease to refuse (`Move`).  A deployment in
time does nothing else (`reaches_advanceTo`, `reaches_stop`).

`Reaches.holds` says that only components that are known by a name are ever marked, woken for or
looked at.
-/

namespace Cascade.Deployment

open Ingestion

/-- What can happen to a deployment. -/
inductive Move : Deployment → Deployment → Prop
  | ingest (d : Deployment) (s : Submission) : Move d (d.ingest s).2
  | respond (d : Deployment) (r : Http.Request) : Move d (d.respond r).2
  | check {d : Deployment} {c : Health.Check} (own : c ∈ d.checks) : Move d (d.runCheck c)
  | startChecks (d : Deployment) : Move d d.startChecks
  | stopChecks (d : Deployment) : Move d d.stopChecks
  | step {d d' : Deployment} (next : d.step = some d') : Move d d'
  | start (d : Deployment) : Move d d.start.2
  | requestStop (d : Deployment) : Move d { d with worker := d.worker.requestStop }
  | collect (d : Deployment) : Move d { d with worker := d.worker.collect }
  | wait (d : Deployment) (time : Nat) : Move d { d with worker := { d.worker with time } }
  /-- Anything but the marked components and the wake-ups changes. -/
  | change {d : Deployment} {site : Site} (marks : site.marks.ids = d.site.marks.ids)
      (queue : site.queue = d.site.queue) : Move d (d.withSite site)

/-- An outside whose clock stands, where every check fails and no alert is sent. -/
def outage : Outside := ⟨default, fun _ id ↦ id, fun _ _ ↦ false, []⟩

def Reaches : Deployment → Deployment → Prop := Relation.ReflTransGen Move

variable {d d' : Deployment}

/-! ### A deployment in time -/

theorem reaches_advanceUntil (stop : Deployment → Bool) (target : Nat) (d : Deployment) :
    d.Reaches (timeline.advanceUntil stop target d) :=
  Time.Timeline.advanceUntil_of (P := d.Reaches) (fun reached next ↦ reached.tail (.step next))
    (fun time reached ↦ reached.tail (.wait _ time)) stop target .refl

theorem reaches_advanceTo (target : Nat) (d : Deployment) : d.Reaches (d.advanceTo target) :=
  reaches_advanceUntil _ target d

theorem reaches_stop (d : Deployment) : d.Reaches d.stop := by
  have asked : d.Reaches { d with worker := d.worker.requestStop } := .single (.requestStop d)
  unfold stop
  split
  · rename_i none
    have same : d.worker.requestStop = { d.worker with running := false } := by
      simp [Worker.State.requestStop, none]
    exact same ▸ asked
  · exact (asked.trans (reaches_advanceUntil _ _ _)).tail (.collect _)

/-! ### What stays -/

theorem mem_takeDue {time : Nat} {l l' : List Ticker} {c : Health.Check}
    (due : takeDue time l = some (c, l')) :
    c ∈ l.map (·.check) ∧ l'.map (·.check) = l.map (·.check) := by
  induction l generalizing l' with
  | nil => cases due
  | cons t l ih =>
    rw [takeDue] at due
    split at due
    · cases due
      exact ⟨List.mem_cons_self, rfl⟩
    · obtain ⟨⟨c', rest⟩, found, eq⟩ := Option.map_eq_some_iff.1 due
      cases eq
      have ⟨mem, same⟩ := ih found
      exact ⟨List.mem_cons_of_mem _ mem, congrArg (t.check :: ·) same⟩

/-- A step is a round of a check that runs, or one of the worker. -/
theorem of_step (next : d.step = some d') :
    (∃ c tickers, c ∈ d.tickers.map (·.check) ∧
      tickers.map (·.check) = d.tickers.map (·.check) ∧
      d' = runCheck c { d with tickers }) ∨
    ∃ worker, d.worker.step d.ownEngine = some worker ∧ d' = { d with worker } := by
  unfold step at next
  split at next
  · rename_i c tickers due
    cases next
    exact .inl ⟨c, tickers, (mem_takeDue due).1, (mem_takeDue due).2, rfl⟩
  · obtain ⟨worker, went, rfl⟩ := Option.map_eq_some_iff.1 next
    exact .inr ⟨worker, went, rfl⟩

theorem startChecks_cases (d : Deployment) :
    d.startChecks = d ∨ d.startChecks = { d with tickers := d.checks.map fun c ↦ ⟨d.time, c⟩ } := by
  unfold startChecks
  split
  · exact .inr rfl
  · exact .inl rfl

/-- What a deployment was set up with, and that only its own checks run. -/
structure Keeps (d d' : Deployment) : Prop where
  topology : d'.topology = d.topology
  checks : d'.checks = d.checks
  /-- Checks that run are those that ran, or of the deployment. -/
  tickers : (∀ t ∈ d.tickers, t.check ∈ d.checks) → ∀ t ∈ d'.tickers, t.check ∈ d.checks

theorem Move.keeps (move : Move d d') : Keeps d d' := by
  cases move with
  | startChecks =>
    rcases d.startChecks_cases with eq | eq
    · rw [eq]
      exact ⟨rfl, rfl, id⟩
    · rw [eq]
      refine ⟨rfl, rfl, fun _ t mem ↦ ?_⟩
      obtain ⟨c, own, rfl⟩ := List.mem_map.1 mem
      exact own
  | stopChecks => exact ⟨rfl, rfl, fun _ ↦ nofun⟩
  | step next =>
    rcases of_step next with ⟨c, tickers, -, same, rfl⟩ | ⟨worker, -, rfl⟩
    · refine ⟨rfl, rfl, fun own t mem ↦ ?_⟩
      have there : t.check ∈ d.tickers.map (·.check) := same ▸ List.mem_map_of_mem mem
      obtain ⟨t', mem', eq⟩ := List.mem_map.1 there
      exact eq ▸ own t' mem'
    · exact ⟨rfl, rfl, id⟩
  | _ => exact ⟨rfl, rfl, id⟩

theorem Reaches.keeps (reached : d.Reaches d') : Keeps d d' := by
  induction reached with
  | refl => exact ⟨rfl, rfl, id⟩
  | tail _ move ih =>
    have next := move.keeps
    refine ⟨next.topology.trans ih.topology, next.checks.trans ih.checks, fun own ↦ ?_⟩
    have own' := ih.tickers own
    rw [← ih.checks] at own' ⊢
    exact next.tickers own'

/-! ### Which components are marked -/

/-- The passes of a deployment leave the marks and the queue alone. -/
theorem spares_engine (o : Outside) (setup : Evaluation.Setup) :
    Worker.Spares (engine o setup) where
  marks _ _ _ _ := rfl
  queue _ _ _ _ := rfl

variable {Q : ComponentId → Prop}

theorem holds_respond {roster : Roster} {now : Time.Instant} {r : Http.Request} {site : Site}
    (known : ∀ {name id}, roster.idOf? name = some id → Q id) (h : site.Holds Q) :
    (Http.respond roster now r site).2.Holds Q := by
  have handled := Http.handled_respond roster now r site
  generalize Http.respond roster now r site = answer at handled ⊢
  cases handled with
  | plain => exact h
  | taken => exact h.ingest known

theorem holds_withSite {site : Site} (h : d.worker.Holds Q) (kept : site.Holds Q) :
    (d.withSite site).worker.Holds Q := ⟨kept, h.pass⟩

theorem holds_runCheck {c : Health.Check}
    (known : ∀ {name id}, d.topology.roster.idOf? name = some id → Q id) (h : d.worker.Holds Q) :
    (d.runCheck c).worker.Holds Q :=
  holds_withSite h (h.site.ingest known)

theorem Move.holds (known : ∀ {name id}, d.topology.roster.idOf? name = some id → Q id)
    (h : d.worker.Holds Q) (move : Move d d') : d'.worker.Holds Q := by
  cases move with
  | ingest => exact holds_withSite h (h.site.ingest known)
  | respond r =>
    exact holds_withSite h (holds_respond known h.site)
  | check => exact holds_runCheck known h
  | startChecks =>
    rcases d.startChecks_cases with eq | eq
    · rw [eq]
      exact h
    · rw [eq]
      exact h
  | stopChecks => exact h
  | step next =>
    rcases of_step next with ⟨c, tickers, -, -, rfl⟩ | ⟨worker, went, rfl⟩
    · exact holds_runCheck (d := { d with tickers }) known h
    · exact h.step (spares_engine _ _) went
  | start => exact h.startWorker
  | requestStop => exact h.requestStop
  | collect => exact h.collect
  | wait => exact ⟨h.site, h.pass⟩
  | change marks queue => exact holds_withSite h ⟨marks ▸ h.site.marks, queue ▸ h.site.queue⟩

/-- Where all known components are of a kind, so are those that are ever marked, woken for or looked
at. -/
theorem Reaches.holds (known : ∀ {name id}, d.topology.roster.idOf? name = some id → Q id)
    (h : d.worker.Holds Q) (reached : d.Reaches d') : d'.worker.Holds Q := by
  induction reached with
  | refl => exact h
  | tail before move ih =>
    refine move.holds (fun {name id} ↦ ?_) ih
    rw [Reaches.keeps before |>.topology]
    exact known

end Cascade.Deployment
