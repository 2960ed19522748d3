import Cascade.Site

/-!
# The worker

The worker waits for a wake-up, then for a fixed span in which more may come, and then runs a pass
over the marked components.  Where no wake-up comes for a while it looks whether one is there after
all, and else runs a pass all the same.  It is told to stop by a request, which it sees while it
waits but not during a pass.
-/

namespace Cascade.Worker

/-- The spans of the worker, in milliseconds. -/
structure Timing where
  /-- The span after a first wake-up in which more are waited for. -/
  debounce : Nat
  /-- The longest wait for a wake-up. -/
  idlePoll : Nat
deriving DecidableEq, Repr, Inhabited

inductive Outcome where
  | succeeded
  /-- It ended early, and its components are to be marked again. -/
  | failed
  /-- It broke down, and the worker with it. -/
  | panicked
deriving DecidableEq, Repr, Inhabited

/-- What the worker is doing. -/
inductive Phase where
  | waiting (deadline : Nat)
  /-- No wake-up came in time; about to look whether one is there after all. -/
  | polled
  | coalescing (deadline : Nat)
  /-- About to take the marks. -/
  | due
  | passing (deadline : Nat) (dirty : IdSet) (outcome : Outcome)
  /-- Done; it still holds the receiving end of the queue. -/
  | finished
  /-- Broken down; the queue is gone with it. -/
  | broken

def Phase.deadline? : Phase → Option Nat
  | waiting d => some d
  | coalescing d => some d
  | passing d _ _ => some d
  | polled => none
  | due => none
  | finished => none
  | broken => none

def Phase.isOver : Phase → Bool
  | finished => true
  | broken => true
  | _ => false

structure Process where
  phase : Phase
  cancelled : Bool

/-- Runs passes: from the number of passes before, the time, the marked components and the site it
tells how long the pass takes and how it ends. -/
abbrev Engine := Nat → Nat → IdSet → Site → (Nat × Outcome) × Site

structure State where
  time : Nat
  timing : Timing
  /-- Whether the receiving end of the queue lies ready for a worker. -/
  parked : Bool
  /-- The worker that was started last, unless it has been done away with. -/
  worker : Option Process
  /-- Whether the worker is meant to run. -/
  running : Bool
  /-- The passes begun so far: when, and over which components. -/
  passes : List (Nat × List ComponentId)
  site : Site

namespace State

def start (timing : Timing) (site : Site) : State := ⟨0, timing, true, none, false, [], site⟩

def enter (phase : Phase) (s : State) : State :=
  { s with worker := s.worker.map fun w ↦ { w with phase } }

def await (s : State) : State := s.enter (.waiting (s.time + s.timing.idlePoll))

def receive (id : ComponentId) (q : Queue) (s : State) : State :=
  { s with site := { s.site with queue := q }.markIfOpen id }

/-- Takes the marks and begins a pass over them, if there are any. -/
def beginPass (engine : Engine) (s : State) : State :=
  let (dirty, marks) := s.site.marks.drain
  let s := { s with site := { s.site with marks } }
  if dirty.isEmpty then s.await
  else
    let ((delay, outcome), site) := engine s.passes.length s.time dirty s.site
    { s with site, passes := s.passes ++ [(s.time, dirty.keys)] }.enter
      (.passing (s.time + delay) dirty outcome)

/-- Marks components again after a pass that ended early. -/
def restore (dirty : IdSet) (s : State) : State :=
  { s with site := dirty.keys.foldl (fun site id ↦ site.markIfOpen id) s.site }

def endPass (dirty : IdSet) (s : State) : Outcome → State
  | .succeeded => s.await
  | .failed => (s.restore dirty).await
  | .panicked => { s with site := { s.site with queue := s.site.queue.close } }.enter .broken

/-- The next thing that the worker can do now.  A request to stop comes first, then wake-ups, then
the end of a wait.  Between the end of a wait and the taking of the marks others may come, to whom
it does not listen. -/
def step (engine : Engine) (s : State) : Option State :=
  match s.worker with
  | none => none
  | some w =>
    match w.phase with
    | .waiting deadline =>
      if w.cancelled then some (s.enter .finished)
      else
        match s.site.queue.pop? with
        | some (id, q) => some ((s.receive id q).enter (.coalescing (s.time + s.timing.debounce)))
        | none => if deadline ≤ s.time then some (s.enter .polled) else none
    | .polled => some (if s.site.queue.items.isEmpty then s.enter .due else s.await)
    | .coalescing deadline =>
      if w.cancelled then some (s.enter .finished)
      else
        match s.site.queue.pop? with
        | some (id, q) => some (s.receive id q)
        | none => if deadline ≤ s.time then some (s.enter .due) else none
    | .due => some (s.beginPass engine)
    | .passing deadline dirty outcome =>
      if deadline ≤ s.time then some (s.endPass dirty outcome) else none
    | .finished => none
    | .broken => none

def due (s : State) : Option Nat := s.worker.bind fun w ↦ w.phase.deadline?

/-- More than the number of steps that the worker takes at one time. -/
def bound (s : State) : Nat := 2 * s.site.queue.capacity + 16

def isOver (s : State) : Bool := s.worker.all fun w ↦ w.phase.isOver

/-! ### Starting and stopping -/

/-- The state with the receiving end of the queue taken out of a worker that is done; nothing if a
worker still holds it or it is gone. -/
def reclaim (s : State) : Option State × State :=
  if s.parked then (some { s with parked := false }, s)
  else
    match s.worker with
    | none => (none, s)
    | some w =>
      match w.phase with
      | .finished => (some { s with worker := none }, s)
      | .broken => (none, { s with worker := none })
      | _ => (none, s)

def startWorker (s : State) : Option LoopError × State :=
  if s.running then (none, s)
  else
    match s.reclaim with
    | (none, s) => (some .stillRunning, s)
    | (some s, _) =>
      (none, { s with running := true, worker := some ⟨.waiting 0, false⟩ }.await)

def requestStop (s : State) : State :=
  { s with running := false, worker := s.worker.map fun w ↦ { w with cancelled := true } }

/-- How long a stop waits for the worker, in milliseconds. -/
def stopTimeout : Nat := 2000

/-- Takes the receiving end of the queue out of a worker that is done. -/
def collect (s : State) : State :=
  match s.worker with
  | none => s
  | some w =>
    match w.phase with
    | .finished => { s with worker := none, parked := true }
    | .broken => { s with worker := none }
    | _ => s

end State

end Cascade.Worker
