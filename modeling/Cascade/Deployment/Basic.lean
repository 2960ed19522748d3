import Cascade.Health.Streak
import Cascade.Http.Service
import Cascade.Settings.Checks
import Cascade.Time.Clock
import Cascade.Worker.Schedule

/-!
# Deployments

A deployment is everything that settings ask for, put together: signals come in over the service
and from checks, the worker runs passes over the components that they are about, and what a pass
finds is recorded and announced.
-/

namespace Cascade

inductive DeploymentError where
  | settings (cause : Settings.SettingsError)
  | store (cause : StoreError)
  | worker (cause : Worker.LoopError)
deriving DecidableEq, Repr

/-- A check that is due at a time in milliseconds. -/
structure Ticker where
  due : Nat
  check : Health.Check

/-- What a deployment cannot know by itself. -/
structure Outside where
  clock : Time.Clock
  /-- The id of the incident that a component opens in a pass of a number. -/
  fresh : Nat → ComponentId → IncidentId
  /-- Whether a component is found well in a round of a number. -/
  isWell : String → Nat → Bool
  /-- Where alerts go besides the records. -/
  channels : List (Alert.Publisher (Evaluation.World Store.Backend))

def Outside.nowAt (o : Outside) (time : Nat) : Time.Instant :=
  (o.clock.advance (time * 1000000)).now

/-- A deployment at a moment. -/
structure Deployment where
  outside : Outside
  topology : Topology
  checks : List Health.Check
  worker : Worker.State
  streaks : Health.Streaks
  rounds : NameMap Nat
  tickers : List Ticker

namespace Deployment

open Evaluation Store

/-- The parts of settings that are refused without a look at the stores. -/
def resolve (s : Settings) :
    Except Settings.SettingsError (Settings.Spans × Topology × List Health.Check) := do
  let spans ← s.evaluation.resolve
  let topology ← Topology.resolve s
  let checks ← Settings.resolveChecks topology s
  return (spans, topology, checks)

/-- The marks of a deployment are its own: no server is known that would share them. -/
def checkMarks (s : Settings) : Except StoreError Unit :=
  if s.sharedMarks.enabled then .error (.unknownType "redis") else .ok ()

/-- A deployment with an open store, before anything in it runs. -/
def setUp (s : Settings) (store : Backend) (outside : Outside) :
    Except DeploymentError Deployment := do
  let (spans, topology, checks) ← (resolve s).mapError .settings
  (checkMarks s).mapError .store
  let queue ← (Worker.Queue.make s.queueCapacity).mapError .worker
  let site := Site.empty queue
  let site := { site with world := site.world.withStore store }
  return {
    outside, topology, checks
    worker := Worker.State.start ⟨spans.debounce, spans.idlePoll⟩ site
    streaks := []
    rounds := ∅
    tickers := [] }

def time (d : Deployment) : Nat := d.worker.time

def site (d : Deployment) : Site := d.worker.site

def withSite (site : Site) (d : Deployment) : Deployment :=
  { d with worker := { d.worker with site } }

def now (d : Deployment) : Time.Instant := d.outside.nowAt d.time

/-! ### Passes -/

/-- Records alerts in the store, and then sends them to the other channels. -/
def publisher (o : Outside) : Alert.Publisher (World Backend) :=
  Alert.together
    (Alert.recording (.within World.store World.withStore Backend.record) :: o.channels)

def outcomeOf : Except PassError Report → Worker.Outcome
  | .ok _ => .succeeded
  | .error .beyondCalendar => .panicked
  | .error _ => .failed

/-- Runs the passes of a deployment.  They take no time. -/
def engine (o : Outside) (setup : Setup) : Worker.Engine := fun pass time dirty site ↦
  let (report, world) := runAnnounced (accessWithin Backend.access) (publisher o) setup
    (o.fresh pass) dirty (o.nowAt time) site.world
  ((0, outcomeOf report), { site with world })

def ownEngine (d : Deployment) : Worker.Engine := engine d.outside d.topology.setup

/-! ### Signals -/

def ingest (s : Ingestion.Submission) (d : Deployment) :
    Except Ingestion.IngestError Ingestion.Admission × Deployment :=
  let (answer, site) := Ingestion.ingest d.topology.roster d.now s d.site
  (answer, d.withSite site)

def respond (r : Http.Request) (d : Deployment) : Http.Response × Deployment :=
  let (response, site) := Http.respond d.topology.roster d.now r d.site
  (response, d.withSite site)

/-! ### Checks -/

def runCheck (c : Health.Check) (d : Deployment) : Deployment :=
  let round := (d.rounds.get? c.component).getD 0
  let well := d.outside.isWell c.component round
  let (streaks, site) := Health.runOnce d.topology.roster c d.now well (d.streaks, d.site)
  { d.withSite site with streaks, rounds := d.rounds.insert c.component (round + 1) }

/-- Lets the checks run, unless they do.  The first round of each is due at once. -/
def startChecks (d : Deployment) : Deployment :=
  if d.tickers.isEmpty then { d with tickers := d.checks.map fun c ↦ ⟨d.time, c⟩ } else d

def stopChecks (d : Deployment) : Deployment := { d with tickers := [] }

/-- The first check that is due, and the checks with its next round put off. -/
def takeDue (time : Nat) : List Ticker → Option (Health.Check × List Ticker)
  | [] => none
  | t :: rest =>
    if t.due ≤ time then some (t.check, { t with due := time + t.check.interval } :: rest)
    else (takeDue time rest).map fun r ↦ (r.1, t :: r.2)

end Deployment

end Cascade
