import Cascade.Proofs.Deployment.Moves
import Cascade.Proofs.Ingestion.Answers
import Cascade.Proofs.Settings.Reach
import Cascade.Proofs.Time.Timeline
import Cascade.Proofs.Worker.Step
import Cascade.Worker.Schedule

/-!
# Signals are kept once

Signals are handed in one after another, while the worker is started and stopped and runs its
passes, and while the marks, the store and the index cease and begin to refuse (`Course`).  A signal
with a key is kept at most once, and it is kept exactly if it was accepted once; one that was
refused or failed may be handed in again (`exactlyOnce_of_course`).

A signal that is accepted wakes the worker unless a pass has broken down before, which closes the
queue for good.
-/

namespace Cascade

open Store

namespace Worker.State

/-- How the pass ends that the worker is in. -/
def ending? (s : State) : Option Outcome :=
  s.worker.bind fun p ↦ match p.phase with
    | .passing _ _ outcome => some outcome
    | _ => none

variable {engine : Engine} {s t : State} {α : Type}

/-- What passes leave alone in the world, a worker leaves alone. -/
theorem world_of_step {f : Evaluation.World Backend → α}
    (pass : ∀ n time dirty site, f (engine n time dirty site).2.world = f site.world)
    (next : s.step engine = some t) : f t.site.world = f s.site.world := by
  obtain ⟨p, worker, moves⟩ := exists_moves_of_step next
  cases moves with
  | quit => rfl
  | receive => rfl
  | turn => rfl
  | beginPass =>
    rw [beginPass_eq]
    split
    · rfl
    · exact pass ..
  | @endPass deadline dirty outcome passing =>
    cases outcome with
    | succeeded => rfl
    | failed => exact congrArg f (Site.foldl_markIfOpen dirty.keys s.site).1
    | panicked => rfl

theorem ending?_of_not_passing {p : Process} (worker : s.worker = some p)
    (other : ∀ deadline dirty outcome, p.phase ≠ .passing deadline dirty outcome) :
    s.ending? = none := by
  rw [ending?, worker, Option.bind_some]
  split
  · exact absurd ‹_› (other _ _ _)
  · rfl

/-- A step of the worker closes the queue exactly if it ends a pass that broke down. -/
theorem closed_of_step (spares : Spares engine) (next : s.step engine = some t) :
    t.site.queue.closed = true ↔ s.site.queue.closed = true ∨ s.ending? = some .panicked := by
  obtain ⟨p, worker, moves⟩ := exists_moves_of_step next
  -- a step in which no pass ends leaves the queue as open as it is
  have still (other : ∀ deadline dirty outcome, p.phase ≠ .passing deadline dirty outcome)
      (same : t.site.queue.closed = s.site.queue.closed) :
      t.site.queue.closed = true ↔ s.site.queue.closed = true ∨ s.ending? = some .panicked := by
    rw [ending?_of_not_passing worker other, same]
    simp
  cases moves with
  | quit idle => exact still idle.not_passing rfl
  | receive opens first => exact still opens.idle.not_passing (Queue.closed_of_pop? first)
  | turn turns => exact still turns.not_passing rfl
  | beginPass due =>
    refine still (due ▸ nofun) ?_
    rw [beginPass_eq]
    split
    · rfl
    · exact congrArg Queue.closed (spares.queue ..)
  | @endPass deadline dirty outcome passing =>
    have ending : s.ending? = some outcome := by
      rw [ending?, worker, Option.bind_some, passing]
    rw [ending]
    cases outcome with
    | succeeded => simp [endPass, await, enter]
    | failed =>
      have same : (s.endPass dirty .failed).site.queue = s.site.queue :=
        (Site.foldl_markIfOpen dirty.keys s.site).2
      simp [same]
    | panicked => simp [endPass, enter, Queue.close]

end Worker.State

namespace Site

/-- The site with other parts refusing. -/
def refusing (marks log index : Bool) (s : Site) : Site :=
  { s with
    marks := { s.marks with closed := marks }
    logClosed := log
    buckets := { s.buckets with closed := index } }

end Site

namespace Ingestion

/-- What happens to signals and passes. -/
inductive Event where
  | handed (s : Submission) (answer : Except IngestError Admission)
  | ended (outcome : Worker.Outcome)
deriving DecidableEq

/-- Signals are handed in one after another, with anything in between. -/
inductive Course (engine : Worker.Engine) (r : Roster) (m : Worker.State) :
    List Event → Worker.State → Prop
  | nil : Course engine r m [] m
  | hand {h : List Event} {m' : Worker.State} (now : Time.Instant) (s : Submission) :
      Course engine r m h m' → Course engine r m (h ++ [.handed s (ingest r now s m'.site).1])
        { m' with site := (ingest r now s m'.site).2 }
  | step {h : List Event} {m' m'' : Worker.State} (next : m'.step engine = some m'') :
      Course engine r m h m' → Course engine r m (h ++ (m'.ending?.map .ended).toList) m''
  | wait {h : List Event} {m' : Worker.State} (time : Nat) :
      Course engine r m h m' → Course engine r m h { m' with time }
  | start {h : List Event} {m' : Worker.State} :
      Course engine r m h m' → Course engine r m h m'.startWorker.2
  | requestStop {h : List Event} {m' : Worker.State} :
      Course engine r m h m' → Course engine r m h m'.requestStop
  | collect {h : List Event} {m' : Worker.State} :
      Course engine r m h m' → Course engine r m h m'.collect
  | refuse {h : List Event} {m' : Worker.State} (marks log index : Bool) :
      Course engine r m h m' →
      Course engine r m h { m' with site := m'.site.refusing marks log index }

/-- Whether a signal with a key is accepted. -/
def Event.accepts (key : String) : Event → Bool
  | handed s (.ok .accepted) => s.key = some key
  | _ => false

variable {engine : Worker.Engine} {r : Roster} {m m' : Worker.State} {h : List Event}
  {key : String} {now : Time.Instant} {s : Submission} {site : Site}

/-- A signal that is handed in adds to those with a key if it is accepted, and is accepted only if
there is none. -/
theorem keyCount_ingest (r : Roster) (now : Time.Instant) (s : Submission) (site : Site)
    (key : String) : (ingest r now s site).2.world.store.keyCount key =
      site.world.store.keyCount key +
        (if Event.accepts key (.handed s (ingest r now s site).1) then 1 else 0) ∧
    (Event.accepts key (.handed s (ingest r now s site).1) = true →
      site.world.store.keyCount key = 0) := by
  have answered := answered_ingest r now s site
  generalize ingest r now s site = answer at answered ⊢
  cases answered with
  | accepted known room taken takes new =>
    refine ⟨?_, fun own ↦ new key (of_decide_eq_true own)⟩
    show (site.world.store.add _).keyCount key = _
    rw [Backend.keyCount_add]
    by_cases own : s.key = some key
    · simp [Event.accepts, Submission.record, own]
    · simp [Event.accepts, Submission.record, own]
  | _ => exact ⟨rfl, nofun⟩

/-- Passes leave the signals that are kept alone. -/
def SparesSignals (engine : Worker.Engine) : Prop := ∀ n time dirty site,
  (engine n time dirty site).2.world.store.rows = site.world.store.rows

/-- A course adds as many signals with a key as are accepted, and no second one. -/
theorem Course.keyCount_eq (course : Course engine r m h m') (spares : SparesSignals engine)
    (key : String) :
    m'.site.world.store.keyCount key =
        m.site.world.store.keyCount key + h.countP (·.accepts key) ∧
      (m.site.world.store.keyCount key ≤ 1 → m'.site.world.store.keyCount key ≤ 1) := by
  induction course with
  | nil => exact ⟨rfl, id⟩
  | @hand h m' now s _ ih =>
    obtain ⟨count, single⟩ := ih
    obtain ⟨more, new⟩ := keyCount_ingest r now s m'.site key
    dsimp only
    rw [List.countP_append, List.countP_singleton, ← Nat.add_assoc, ← count, more]
    refine ⟨rfl, fun few ↦ ?_⟩
    split
    · rename_i accepted
      rw [new accepted]
    · exact single few
  | @step h m' m'' next _ ih =>
    have none : ((m'.ending?.map Event.ended).toList).countP (·.accepts key) = 0 := by
      cases m'.ending? <;> rfl
    have same : m''.site.world.store.rows = m'.site.world.store.rows :=
      Worker.State.world_of_step (f := fun w ↦ w.store.rows) spares next
    rw [List.countP_append, none, Nat.add_zero, Backend.keyCount, same]
    exact ih
  | @start h m' _ ih =>
    rw [m'.site_startWorker]
    exact ih
  | @collect h m' _ ih =>
    rw [m'.site_collect]
    exact ih
  | wait _ _ ih => exact ih
  | requestStop _ ih => exact ih
  | refuse _ _ _ _ ih => exact ih

/-- The queue is closed exactly if a pass broke down. -/
theorem Course.closed_iff (course : Course engine r m h m') (spares : Worker.Spares engine) :
    m'.site.queue.closed = true ↔ m.site.queue.closed = true ∨ .ended .panicked ∈ h := by
  induction course with
  | nil => simp
  | @hand h m' now s _ ih =>
    dsimp only
    rw [closed_ingest, ih]
    simp
  | @step h m' m'' next _ ih =>
    rw [Worker.State.closed_of_step spares next, ih, List.mem_append, or_assoc]
    simp [Option.map_eq_some_iff]
  | @start h m' _ ih =>
    rw [m'.site_startWorker]
    exact ih
  | @collect h m' _ ih =>
    rw [m'.site_collect]
    exact ih
  | wait _ _ ih => exact ih
  | requestStop _ ih => exact ih
  | refuse _ _ _ _ ih => exact ih

theorem Course.exists_advanceTo (course : Course engine r m h m') (target : Nat) :
    ∃ h, Course engine r m h ((Worker.State.timeline engine).advanceTo target m') :=
  Time.Timeline.advanceUntil_of (m := Worker.State.timeline engine)
    (P := fun m' ↦ ∃ h, Course engine r m h m')
    (fun ⟨_, course⟩ next ↦ ⟨_, course.step next⟩)
    (fun time ⟨h, course⟩ ↦ ⟨h, course.wait time⟩) _ target ⟨h, course⟩

/-- What a course of signals that are handed in comes to. -/
structure ExactlyOnce (r : Roster) (m : Worker.State) (h : List Event) (m' : Worker.State) :
    Prop where
  /-- Any signal that is handed in then is answered, and leaves its trace, as it should. -/
  accounted (now : Time.Instant) (s : Submission) :
    Accounted r now s m'.site (ingest r now s m'.site)
  /-- Any request that is refused then leaves no trace. -/
  respond {now : Time.Instant} {req : Http.Request} :
    (Http.respond r now req m'.site).1.status = 400 ∨
      (Http.respond r now req m'.site).1.status = 404 ∨
      (Http.respond r now req m'.site).1.status = 429 →
    (Http.respond r now req m'.site).2 = m'.site
  /-- The queue is closed only where a pass broke down. -/
  closed_iff : m'.site.queue.closed = true ↔ m.site.queue.closed = true ∨ .ended .panicked ∈ h
  /-- A key belongs to one signal at most. -/
  single {key : String} : m.site.world.store.keyCount key ≤ 1 →
    m'.site.world.store.keyCount key ≤ 1
  /-- A key that no signal had belongs to one exactly if one was accepted. -/
  kept_iff {key : String} : m.site.world.store.keyCount key = 0 →
    (m'.site.world.store.keyCount key = 1 ↔
      ∃ s, s.key = some key ∧ .handed s (.ok .accepted) ∈ h)
  /-- Until one is accepted, a signal with the key is accepted wherever nothing refuses it. -/
  retry {key : String} {now : Time.Instant} {s : Submission} {id : ComponentId} :
    m.site.world.store.keyCount key = 0 →
    (∀ s', s'.key = some key → .handed s' (.ok .accepted) ∉ h) → s.key = some key →
    r.idOf? s.component = some id → m'.site.queue.canAccept = true →
    m'.site.marks.closed = false → m'.site.Takes (s.record id now) →
    (ingest r now s m'.site).1 = .ok .accepted

theorem countP_accepts_pos_iff :
    0 < h.countP (·.accepts key) ↔ ∃ s, s.key = some key ∧ .handed s (.ok .accepted) ∈ h := by
  rw [List.countP_pos_iff]
  constructor
  · rintro ⟨e, mem, accepts⟩
    unfold Event.accepts at accepts
    split at accepts
    · rename_i s
      exact ⟨s, of_decide_eq_true accepts, mem⟩
    · cases accepts
  · rintro ⟨s, own, mem⟩
    exact ⟨_, mem, decide_eq_true own⟩

/-- The passes of a deployment leave the signals that are kept alone where its channels do. -/
theorem sparesSignals_engine {o : Outside} (setup : Evaluation.Setup)
    (channels : ∀ p ∈ o.channels, Evaluation.SparesSignals p) :
    SparesSignals (Deployment.engine o setup) := by
  intro n time dirty site
  exact Evaluation.rows_runAnnounced (Evaluation.sparesSignals_together
    (List.forall_mem_cons.2 ⟨Evaluation.sparesSignals_recording, channels⟩))

/-- Signals that are handed in one after another are kept once for each key: nothing else that
happens meanwhile adds, drops or doubles one. -/
theorem exactlyOnce_of_course {o : Outside} {setup : Evaluation.Setup}
    (channels : ∀ p ∈ o.channels, Evaluation.SparesSignals p)
    (course : Course (Deployment.engine o setup) r m h m') : ExactlyOnce r m h m' := by
  have counted (key : String) := course.keyCount_eq (sparesSignals_engine setup channels) key
  refine ⟨fun now s ↦ (answered_ingest r now s _).accounted, Http.respond_of_refused,
    course.closed_iff (Deployment.spares_engine o setup), fun {key} ↦ (counted key).2, ?_, ?_⟩
  · intro key none
    obtain ⟨count, single⟩ := counted key
    rw [none, Nat.zero_add] at count
    have few := single (none ▸ Nat.zero_le 1)
    rw [← countP_accepts_pos_iff]
    omega
  · intro key now s id none unaccepted own known room taken takes
    have absent : h.countP (·.accepts key) = 0 := Nat.eq_zero_of_not_pos fun pos ↦ by
      obtain ⟨s', own', mem⟩ := countP_accepts_pos_iff.1 pos
      exact unaccepted s' own' mem
    refine (answered_ingest r now s _).accounted.accepted_iff.2
      ⟨id, known, room, taken, takes, fun key' own' ↦ ?_⟩
    cases own.symm.trans own'
    rw [(counted key).1, none, absent]

/-! ### One component -/

namespace Trial

open Deployment (outage)

/-- Nothing has begun, and there is room for four wake-ups. -/
def start : Worker.State :=
  .start ⟨500, 250⟩ (.empty ⟨[], 4, false, by decide, by decide⟩)

/-- An outside in which alerts go to a chat that cannot be reached. -/
def muted : Outside :=
  let recorder := .within Evaluation.World.store Evaluation.World.withStore Backend.record
  { outage with channels := [Alert.Telegram.publisher
      (fun _ w ↦ (.unanswered true "timeout", w)) recorder ⟨∅, ⟨"shop", "test", none⟩⟩] }

theorem sparesSignals_muted : ∀ p ∈ muted.channels, Evaluation.SparesSignals p := by
  intro p mem
  cases List.mem_singleton.1 mem
  exact Evaluation.Telegram.sparesSignals_publisher (fun m w ↦ rfl) _

def signal (key : String) : Submission := ⟨"db", .critical, .ofNanos 0, "probe", some key⟩

/-- The signal fails while no marks are taken, is accepted then, and is a duplicate after that. -/
theorem exactlyOnce_signal : ∃ m' h,
    h = [.handed (signal "first") (.error (.mark (.mark (.unavailable .dirty)))),
      .handed (signal "first") (.ok .accepted), .handed (signal "first") (.ok .duplicate)] ∧
    Course (Deployment.engine muted default) ["db"] start h m' ∧
    m'.site.world.store.keyCount "first" = 1 ∧ ExactlyOnce ["db"] start h m' := by
  have nothing : Course (Deployment.engine muted default) ["db"] start [] start := .nil
  have failed := (nothing.refuse true false false).hand (.ofNanos 0) (signal "first")
  have course := ((failed.refuse false false false).hand (.ofNanos 0) (signal "first")).hand
    (.ofNanos 0) (signal "first")
  have exact := exactlyOnce_of_course sparesSignals_muted course
  have kept := (exact.kept_iff (by decide +kernel)).2 ⟨signal "first", rfl, by decide +kernel⟩
  exact ⟨_, _, by decide +kernel, course, kept, exact⟩

/-- What passes work with whose window begins before the calendar. -/
def setup : Evaluation.Setup :=
  match Topology.resolve Topology.endless with
  | .ok t => t.setup
  | .error _ => default

/-- The first signal is handed in. -/
def begun : Worker.State :=
  { start with site := (ingest ["db"] (.ofNanos 0) (signal "first") start.site).2 }

/-- The worker has run a pass over it. -/
def broken : Worker.State :=
  (Worker.State.timeline (Deployment.engine outage setup)).advanceTo 2000 begun.startWorker.2

theorem exists_course : ∃ h, Course (Deployment.engine outage setup) ["db"] start h broken :=
  (Course.nil.hand (.ofNanos 0) (signal "first")).start.exists_advanceTo 2000

/-- A signal is accepted after a pass broke down, and adds no wake-up. -/
theorem exists_accepted_unwoken : ∃ (m' : Worker.State) (h : List Event),
    Course (Deployment.engine outage setup) ["db"] start h m' ∧ .ended .panicked ∈ h ∧
    (ingest ["db"] (.ofNanos 0) (signal "second") m'.site).1 = .ok .accepted ∧
    (ingest ["db"] (.ofNanos 0) (signal "second") m'.site).2.queue.items =
      m'.site.queue.items := by
  have closed : broken.site.queue.closed = true := by decide +kernel
  have accepted : (ingest ["db"] (.ofNanos 0) (signal "second") broken.site).1 = .ok .accepted := by
    decide +kernel
  obtain ⟨id, -, -, items⟩ := (answered_ingest _ _ _ _).accounted.accepted accepted
  obtain ⟨h, course⟩ := exists_course
  have brokeDown := (course.closed_iff (Deployment.spares_engine _ setup)).1 closed
  refine ⟨broken, h, course, brokeDown.resolve_left (by decide), accepted, ?_⟩
  rw [items, closed]
  exact List.append_nil _

end Trial

end Ingestion

end Cascade
