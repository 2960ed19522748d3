import Cascade.Ingestion
import Cascade.Proofs.IdMap
import Cascade.Worker.Basic

/-!
# Ingestion and the worker side by side

Many calls take signals in while one worker runs, and the steps of all of them come in any order.  A
call checks for room, marks its component, appends its signal, and wakes the worker.  The worker
takes a wake-up and marks its component, comes to the end of a wait, takes all marks, reads the
signals of the components one by one, and ends its pass.  A step is taken only if no store refuses
it, and carries an event (`Step`).

`run_ingest` says that taking a signal in is the steps of one call in a row, and `run_receive` that
receiving a wake-up is two steps of the worker.
-/

namespace Cascade.Interleaving

open Store Ingestion

/-! ## States -/

/-- How far a call has come. -/
inductive Stage where
  | admitted
  | marked
  | kept
  | returned (answer : Admission)

/-- A call that takes a signal in. -/
structure Call where
  submission : Submission
  component : ComponentId
  stage : Stage

inductive Activity where
  | waiting
  | coalescing
  /-- It has taken a wake-up and is about to mark its component. -/
  | holding (id : ComponentId)
  /-- Its wait is over. -/
  | due
  /-- It is in a pass, and some components are yet to be read. -/
  | passing (unread : List ComponentId)

/-- Ingestion and the worker. -/
structure State where
  site : Site
  /-- The calls, in the order in which they were admitted. -/
  calls : List Call
  worker : Activity

/-- A call has come further. -/
def State.advance (s : State) (k : Nat) (call : Call) (stage : Stage) (site : Site) : State :=
  { s with site, calls := s.calls.set k { call with stage } }

/-- The stage of a call after its signal was handed to the store. -/
def Stage.ofOutcome : AppendOutcome → Stage
  | .inserted => kept
  | .duplicate => returned .duplicate

/-- What the worker does after it took marks. -/
def Activity.ofDrained (dirty : IdSet) : Activity :=
  if dirty.isEmpty then waiting else passing dirty.keys

/-! ## Steps -/

inductive Event where
  | arrive
  | mark (call : Nat) (id : ComponentId)
  | append (call : Nat)
  | wake (call : Nat) (id : ComponentId) (room : Bool)
  | receive (id : ComponentId)
  /-- The worker marks the component of a wake-up. -/
  | note (id : ComponentId)
  /-- The wait for a first wake-up ends without one. -/
  | poll
  /-- The wait for more wake-ups ends. -/
  | close
  | drain
  | read (id : ComponentId)
  /-- The worker writes what it found, and the pass is over. -/
  | finish
deriving DecidableEq

inductive Step (r : Roster) : State → Event → State → Prop
  | arrive {s : State} {submission : Submission} {id : ComponentId}
      (known : r.idOf? submission.component = some id) (room : s.site.queue.canAccept = true) :
      Step r s .arrive { s with calls := s.calls ++ [⟨submission, id, .admitted⟩] }
  | mark {s : State} {k : Nat} {call : Call} {site : Site} (here : s.calls[k]? = some call)
      (stage : call.stage = .admitted) (marked : s.site.mark call.component = .ok site) :
      Step r s (.mark k call.component) (s.advance k call .marked site)
  | append {s : State} {k : Nat} {call : Call} {now : Time.Instant} {outcome : AppendOutcome}
      {site : Site} (here : s.calls[k]? = some call) (stage : call.stage = .marked)
      (appended : s.site.append (call.submission.record call.component now) =
        .ok (outcome, site)) :
      Step r s (.append k) (s.advance k call (.ofOutcome outcome) site)
  | wake {s : State} {k : Nat} {call : Call} {room : Bool} (here : s.calls[k]? = some call)
      (stage : call.stage = .kept) (pushed : (s.site.queue.push call.component).1 = room) :
      Step r s (.wake k call.component room)
        (s.advance k call (.returned .accepted) (settle call.submission call.component s.site))
  | receive {s : State} {id : ComponentId} {queue : Worker.Queue}
      (idle : s.worker = .waiting ∨ s.worker = .coalescing)
      (next : s.site.queue.pop? = some (id, queue)) :
      Step r s (.receive id) { s with site := { s.site with queue }, worker := .holding id }
  | note {s : State} {id : ComponentId} {site : Site} (holding : s.worker = .holding id)
      (marked : s.site.mark id = .ok site) :
      Step r s (.note id) { s with site, worker := .coalescing }
  | poll {s : State} (waiting : s.worker = .waiting) (none : s.site.queue.pop? = none) :
      Step r s .poll { s with worker := .due }
  | close {s : State} (coalescing : s.worker = .coalescing) (none : s.site.queue.pop? = none) :
      Step r s .close { s with worker := .due }
  | drain {s : State} (due : s.worker = .due) :
      Step r s .drain { s with
        site := { s.site with marks := s.site.marks.drain.2 }
        worker := .ofDrained s.site.marks.drain.1 }
  | read {s : State} {id : ComponentId} {unread : List ComponentId} {signals : List Signal}
      (passing : s.worker = .passing (id :: unread))
      (found : (Evaluation.accessWithin Backend.access).find id s.site.world = .ok signals) :
      Step r s (.read id) { s with worker := .passing unread }
  | finish {s : State} {report : Evaluation.Report} {world : Evaluation.World Backend}
      (passing : s.worker = .passing [])
      (written : Evaluation.commit (Evaluation.accessWithin Backend.access) report s.site.world =
        (.ok (), world)) :
      Step r s .finish { s with site := { s.site with world }, worker := .waiting }

/-- Steps one after another, with their events. -/
inductive Run (r : Roster) : State → List Event → State → Prop
  | nil (s : State) : Run r s [] s
  | cons {s t u : State} {e : Event} {es : List Event} :
      Step r s e t → Run r t es u → Run r s (e :: es) u

variable {r : Roster} {s t u : State} {e : Event} {es fs : List Event}

theorem Run.exists_cons {P : State → Prop} (step : Step r s e t)
    (rest : ∃ u, Run r t es u ∧ P u) : ∃ u, Run r s (e :: es) u ∧ P u := by
  obtain ⟨u, run, h⟩ := rest
  exact ⟨u, .cons step run, h⟩

theorem Run.split (run : Run r s (es ++ fs) u) : ∃ t, Run r s es t ∧ Run r t fs u := by
  induction es generalizing s with
  | nil => exact ⟨s, .nil s, run⟩
  | cons e es ih =>
    cases run with
    | cons step rest =>
      obtain ⟨t, first, second⟩ := ih rest
      exact ⟨t, .cons step first, second⟩

/-! ## Steps in a row -/

/-- Whether an event is a step of a call after its admission. -/
def Event.isOf (k : Nat) : Event → Bool
  | mark j _ => j = k
  | append j => j = k
  | wake j _ _ => j = k
  | _ => false

/-- The state with one more call. -/
def State.join (s : State) (call : Call) (site : Site) : State :=
  { s with site, calls := s.calls ++ [call] }

theorem getElem?_join {call : Call} {site : Site} :
    (s.join call site).calls[s.calls.length]? = some call := List.getElem?_concat_length

theorem advance_join {call : Call} {stage : Stage} {site site' : Site} :
    (s.join call site).advance s.calls.length call stage site' =
      s.join { call with stage } site' := by
  simp [State.advance, State.join]

section

variable {submission : Submission} {id : ComponentId} {site site' : Site}

theorem mark_join (marked : site.mark id = .ok site') :
    Step r (s.join ⟨submission, id, .admitted⟩ site) (.mark s.calls.length id)
      (s.join ⟨submission, id, .marked⟩ site') := by
  have step := Step.mark (r := r) (s := s.join ⟨submission, id, .admitted⟩ site) getElem?_join rfl
    marked
  rwa [advance_join] at step

theorem append_join {now : Time.Instant} {outcome : AppendOutcome}
    (appended : site.append (submission.record id now) = .ok (outcome, site')) :
    Step r (s.join ⟨submission, id, .marked⟩ site) (.append s.calls.length)
      (s.join ⟨submission, id, .ofOutcome outcome⟩ site') := by
  have step := Step.append (r := r) (s := s.join ⟨submission, id, .marked⟩ site) getElem?_join rfl
    appended
  rwa [advance_join] at step

theorem wake_join : Step r (s.join ⟨submission, id, .kept⟩ site)
    (.wake s.calls.length id (site.queue.push id).1)
    (s.join ⟨submission, id, .returned .accepted⟩ (settle submission id site)) := by
  have step := Step.wake (r := r) (s := s.join ⟨submission, id, .kept⟩ site) getElem?_join rfl
    rfl
  rwa [advance_join] at step

/-- Where nothing refuses, taking a signal in is the steps of one call in a row. -/
theorem run_ingest {now : Time.Instant} {answer : Admission}
    (taken : ingest r now submission s.site = (.ok answer, site))
    (admitted : answer = .accepted ∨ answer = .duplicate) :
    ∃ id es, Run r s (.arrive :: es) (s.join ⟨submission, id, .returned answer⟩ site) ∧
      ∀ e ∈ es, e.isOf s.calls.length = true := by
  unfold ingest at taken
  cases known : r.idOf? submission.component with
  | none =>
    simp only [known, Prod.mk.injEq, Except.ok.injEq] at taken
    obtain ⟨rfl, -⟩ := taken
    simp at admitted
  | some id =>
    simp only [known] at taken
    split at taken
    · rename_i room
      have arrive : Step r s .arrive (s.join ⟨submission, id, .admitted⟩ s.site) :=
        .arrive known room
      unfold keep at taken
      split at taken
      · cases taken
      · rename_i marked
        split at taken
        · cases taken
        · rename_i appended
          cases taken
          refine ⟨id, _, .cons arrive (.cons (mark_join marked) (.cons (append_join appended)
            (.nil _))), ?_⟩
          simp [Event.isOf]
        · rename_i appended
          cases taken
          refine ⟨id, _, .cons arrive (.cons (mark_join marked) (.cons (append_join appended)
            (.cons wake_join (.nil _)))), ?_⟩
          simp [Event.isOf]
    · cases taken
      simp at admitted

end

/-- Where marks are taken, receiving a wake-up is to take it and to mark its component. -/
theorem run_receive {w : Worker.State} {id : ComponentId} {queue : Worker.Queue}
    (same : w.site = s.site) (idle : s.worker = .waiting ∨ s.worker = .coalescing)
    (taken : s.site.marks.closed = false) (next : s.site.queue.pop? = some (id, queue)) :
    Run r s [.receive id, .note id]
      { s with site := (w.receive id queue).site, worker := .coalescing } := by
  have receive := Step.receive (r := r) idle next
  have marked : ({ s.site with queue } : Site).mark id = .ok (w.receive id queue).site := by
    simp [Site.mark, Marks.mark, taken, Worker.State.receive, same, Site.markIfOpen,
      Marks.markIfOpen, Except.map]
  have note := Step.note (r := r)
    (s := { s with site := { s.site with queue }, worker := .holding id }) rfl marked
  exact .cons receive (.cons note (.nil _))

end Cascade.Interleaving
