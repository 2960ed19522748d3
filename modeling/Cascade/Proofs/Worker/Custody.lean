import Cascade.Proofs.Time.Timeline
import Cascade.Proofs.Worker.Loop
import Cascade.Worker.Schedule

/-!
# Starting and stopping step by step

The queue's receiving end lies ready, or a worker has it, or a call that starts or stops a worker
does.  Any number of such calls are made, each of which looks at one thing at a time; their steps,
those of the workers and those of whoever hands in components come in any order (`Step`).  A call
that stops a worker may stop waiting for it at any moment.  No call is given up halfway, and no pass
breaks down.

Nothing here keeps the receiving end from being lost: what is put where something lies already takes
its place, and a worker that is done and whose handle nobody has takes the queue with it
(`State.sweep`).

Whatever becomes of the worker as it runs, with components handed in, workers started and stopped,
and time passing in between, is such steps (`Course.exists_run`).
-/

namespace Cascade.Worker.Custody

open Store
open Loop (Activity Desk Deed Work Serves Quiet Shows)

/-! ## States -/

structure Runner where
  activity : Activity
  /-- How often workers had been told something when it began to listen. -/
  heard : Nat

/-- How far a call that starts or stops a worker has come. -/
inductive Call where
  | start
  /-- It has set the flag by which a worker is meant to run. -/
  | entered
  /-- The receiving end did not lie ready. -/
  | searching
  /-- It has taken the handle of a worker that is done. -/
  | collecting (worker : Nat)
  /-- It found no receiving end. -/
  | refused
  /-- It has the receiving end. -/
  | holding
  /-- It has taken back the request to stop. -/
  | cleared
  /-- Its worker will listen from here on. -/
  | listening (heard : Nat)
  /-- It has started a worker and has the handle. -/
  | spawned (worker : Nat)
  | started (error : Option LoopError)
  | stop
  /-- It has lowered the flag. -/
  | lowered
  /-- It has taken the handle of a worker. -/
  | seized (worker : Nat)
  /-- It has told the worker to stop and waits for it. -/
  | awaiting (worker : Nat)
  /-- It has taken the receiving end out of the worker. -/
  | joined
  /-- It waits no longer. -/
  | late (worker : Nat)
  | stopped

/-- What a call may have in its hands. -/
inductive Grip where
  | queue
  | handle (worker : Nat)
deriving DecidableEq

/-- What a call has in its hands. -/
def Call.grip : Call → Option Grip
  | collecting w | spawned w | seized w | awaiting w | late w => some (.handle w)
  | holding | cleared | listening _ | joined => some .queue
  | _ => none

/-- What workers and calls share, and what they do. -/
structure State where
  desk : Desk
  /-- How often workers have been told something.  A worker stops whatever it is told. -/
  told : Nat
  /-- Whether a worker is meant to run. -/
  running : Bool
  /-- Whether the receiving end lies ready. -/
  parked : Bool
  /-- The worker whose handle is stored. -/
  stored : Option Nat
  /-- The workers, in the order in which they were started. -/
  workers : List Runner
  calls : List Call

namespace State

/-- A worker as its own loop sees it. -/
def view (s : State) (r : Runner) : Loop.Runner := ⟨r.activity, r.heard != s.told⟩

def ended (s : State) (w : Nat) : Bool :=
  match s.workers[w]? with
  | some ⟨.finished, _⟩ => true
  | _ => false

def Live (s : State) (w : Nat) : Prop := w < s.workers.length ∧ s.ended w = false

def grip (s : State) (k : Nat) : Option Grip := s.calls[k]?.bind Call.grip

/-- Whether the handle of a worker is stored or in the hands of a call. -/
def keeps (s : State) (w : Nat) : Bool :=
  s.stored == some w || s.calls.any fun c ↦ c.grip == some (.handle w)

/-- A receiving end is lost, and the queue with it. -/
def discard (s : State) : State := { s with desk := { s.desk with queue := s.desk.queue.close } }

/-- Loses the receiving end of a worker that is done and whose handle nobody has. -/
def sweep (w : Nat) (s : State) : State := if s.ended w && !s.keeps w then s.discard else s

/-- Puts the receiving end down.  One that lay there is lost. -/
def park (s : State) : State := { if s.parked then s.discard else s with parked := true }

/-- Stores the handle of a worker in the place of another one. -/
def store (w : Nat) (s : State) : State :=
  match s.stored with
  | none => { s with stored := some w }
  | some v => { s with stored := some w }.sweep v

end State

/-! ## Steps -/

/-- What a call does in a step. -/
inductive Move where
  /-- A worker is meant to run already, and a start returns. -/
  | ignore
  /-- A start sets the flag. -/
  | raise
  /-- A start looks whether the receiving end lies ready, and takes it if so. -/
  | look (found : Bool)
  /-- It looks for the handle of a worker that is done, and takes it if there is one. -/
  | search (found : Bool)
  /-- It takes the receiving end out of the worker. -/
  | collect
  /-- It lowers the flag again and fails. -/
  | refuse
  | clear
  | listen
  | spawn
  /-- It stores the handle of its worker and returns. -/
  | hand
  | lower
  /-- A stop takes the handle that is stored, or returns if there is none. -/
  | seize (found : Bool)
  | tell
  /-- It takes the receiving end out of the worker, which is done. -/
  | join
  /-- Its deadline has come. -/
  | expire
  /-- It puts the receiving end down and returns. -/
  | park
  /-- It stores the handle again and returns. -/
  | restore
deriving DecidableEq

/-- What a call may do, and how far it has come then. -/
inductive Act (s : State) : Call → Move → State → Call → Prop
  | ignore (on : s.running = true) : Act s .start .ignore s (.started none)
  | raise (off : s.running = false) : Act s .start .raise { s with running := true } .entered
  | take (lies : s.parked = true) : Act s .entered (.look true) { s with parked := false } .holding
  | miss (none : s.parked = false) : Act s .entered (.look false) s .searching
  | find {w : Nat} (there : s.stored = some w) (ended : s.ended w = true) :
      Act s .searching (.search true) { s with stored := none } (.collecting w)
  | fail (none : ∀ w, s.stored = some w → s.ended w = false) :
      Act s .searching (.search false) s .refused
  | collect {w : Nat} (ended : s.ended w = true) : Act s (.collecting w) .collect s .holding
  | refuse : Act s .refused .refuse { s with running := false } (.started (some .stillRunning))
  | clear : Act s .holding .clear { s with told := s.told + 1 } .cleared
  | listen : Act s .cleared .listen s (.listening s.told)
  | spawn {heard : Nat} :
      Act s (.listening heard) .spawn { s with workers := s.workers ++ [⟨.waiting, heard⟩] }
        (.spawned s.workers.length)
  | hand {w : Nat} : Act s (.spawned w) .hand (s.store w) (.started none)
  | lower : Act s .stop .lower { s with running := false } .lowered
  | seize {w : Nat} (there : s.stored = some w) :
      Act s .lowered (.seize true) { s with stored := none } (.seized w)
  | idle (none : s.stored = none) : Act s .lowered (.seize false) s .stopped
  | tell {w : Nat} : Act s (.seized w) .tell { s with told := s.told + 1 } (.awaiting w)
  | join {w : Nat} (ended : s.ended w = true) : Act s (.awaiting w) .join s .joined
  | expire {w : Nat} : Act s (.awaiting w) .expire s (.late w)
  | park : Act s .joined .park s.park .stopped
  | restore {w : Nat} : Act s (.late w) .restore (s.store w) .stopped

inductive Event where
  | start
  | stop
  | act (call : Nat) (move : Move)
  | mark (id : ComponentId)
  | wake (id : ComponentId) (room : Bool)
  | work (worker : Nat) (deed : Deed)
deriving DecidableEq

inductive Step : State → Event → State → Prop
  | start {s : State} : Step s .start { s with calls := s.calls ++ [.start] }
  | stop {s : State} : Step s .stop { s with calls := s.calls ++ [.stop] }
  | act {s t : State} {k : Nat} {c c' : Call} {move : Move} (here : s.calls[k]? = some c)
      (act : Act s c move t c') : Step s (.act k move) { t with calls := t.calls.set k c' }
  | mark {s : State} {id : ComponentId} {marks : Marks}
      (marked : s.desk.marks.mark id = .ok marks) :
      Step s (.mark id) { s with desk := { s.desk with marks } }
  | wake {s : State} {id : ComponentId} {room : Bool} {queue : Queue}
      (pushed : s.desk.queue.push id = (room, queue)) :
      Step s (.wake id room) { s with desk := { s.desk with queue } }
  | work {s : State} {w : Nat} {r : Runner} {deed : Deed} {desk : Desk} {activity : Activity}
      (here : s.workers[w]? = some r) (work : Work s.desk (s.view r) deed desk activity) :
      Step s (.work w deed)
        ({ s with desk, workers := s.workers.set w { r with activity } }.sweep w)

/-- Steps one after another, with their events. -/
inductive Run : State → List Event → State → Prop
  | nil (s : State) : Run s [] s
  | cons {s t u : State} {e : Event} {es : List Event} :
      Step s e t → Run t es u → Run s (e :: es) u

variable {s t u : State} {e : Event} {es fs : List Event} {k w : Nat}

theorem Run.single (step : Step s e t) : Run s [e] t := .cons step (.nil t)

theorem Run.append (first : Run s es t) (second : Run t fs u) : Run s (es ++ fs) u := by
  induction first with
  | nil s => exact second
  | cons step _ ih => exact .cons step (ih second)

theorem Run.exists_cons {P : State → Prop} (step : Step s e t) (rest : ∃ u, Run t es u ∧ P u) :
    ∃ u, Run s (e :: es) u ∧ P u := by
  obtain ⟨u, run, h⟩ := rest
  exact ⟨u, .cons step run, h⟩

theorem Run.split (run : Run s (es ++ fs) u) : ∃ t, Run s es t ∧ Run t fs u := by
  induction es generalizing s with
  | nil => exact ⟨s, .nil s, run⟩
  | cons e es ih =>
    cases run with
    | cons step rest =>
      obtain ⟨t, first, second⟩ := ih rest
      exact ⟨t, .cons step first, second⟩

/-! ## The worker as it runs -/

theorem State.ended_iff {r : Runner} (here : s.workers[w]? = some r) :
    s.ended w = true ↔ r.activity = .finished := by
  obtain ⟨activity, heard⟩ := r
  unfold State.ended
  rw [here]
  cases activity <;> simp

theorem State.store_of_vacant (vacant : s.stored = none) (w : Nat) :
    s.store w = { s with stored := some w } := by
  rw [State.store, vacant]

theorem State.sweep_of_keeps (kept : s.keeps w = true) : s.sweep w = s := by
  rw [State.sweep, kept, Bool.not_true, Bool.and_false, if_neg Bool.false_ne_true]

/-- Workers and what they share, as a worker's own loop sees them. -/
def State.loop (s : State) : Loop.State := ⟨s.desk, [], s.workers.map s.view⟩

/-- Nothing has happened but what workers do. -/
structure Worked (s t : State) : Prop where
  told : t.told = s.told
  running : t.running = s.running
  parked : t.parked = s.parked
  stored : t.stored = s.stored
  calls : t.calls = s.calls
  heard : t.workers.map (·.heard) = s.workers.map (·.heard)

variable {m m' : Worker.State} {engine : Engine} {p : Process} {l : Loop.State} {deed : Deed}
  {deeds : List Deed} {id : ComponentId} {site : Site} {c c' : Call} {move : Move}

theorem Worked.trans (first : Worked s t) (second : Worked t u) : Worked s u where
  told := second.told.trans first.told
  running := second.running.trans first.running
  parked := second.parked.trans first.parked
  stored := second.stored.trans first.stored
  calls := second.calls.trans first.calls
  heard := second.heard.trans first.heard

theorem Worked.keeps (worked : Worked s t) (w : Nat) : t.keeps w = s.keeps w := by
  rw [State.keeps, State.keeps, worked.stored, worked.calls]

theorem Worked.length (worked : Worked s t) : t.workers.length = s.workers.length := by
  rw [← List.length_map (fun r : Runner ↦ r.heard), worked.heard, List.length_map]

/-- What a worker does in its own loop is a step, as long as somebody has its handle. -/
theorem exists_step_work (step : Loop.Step s.loop (.work w deed) l) (kept : s.keeps w = true) :
    ∃ t, Step s (.work w deed) t ∧ t.loop = l ∧ Worked s t := by
  cases step with
  | work there work =>
    obtain ⟨r, here, rfl⟩ := Option.map_eq_some_iff.1 (List.getElem?_map.symm.trans there)
    have step := Step.work here work
    rw [State.sweep_of_keeps (by exact kept)] at step
    refine ⟨_, step, ?_, rfl, rfl, rfl, rfl, rfl, ?_⟩
    · rw [State.loop, List.map_set]
      rfl
    · have heard : (s.workers.map (·.heard))[w]? = some r.heard := by
        rw [List.getElem?_map, here]
        rfl
      obtain ⟨inside, heard⟩ := List.getElem?_eq_some_iff.1 heard
      rw [List.map_set, ← heard]
      exact List.set_getElem_self inside

theorem exists_run_works (run : Loop.Run s.loop (deeds.map (.work w)) l)
    (kept : s.keeps w = true) :
    ∃ t, Run s (deeds.map (.work w)) t ∧ t.loop = l ∧ Worked s t := by
  induction deeds generalizing s with
  | nil =>
    cases run
    exact ⟨s, .nil s, rfl, rfl, rfl, rfl, rfl, rfl, rfl⟩
  | cons deed deeds ih =>
    cases run with
    | cons step rest =>
      obtain ⟨t, first, rfl, worked⟩ := exists_step_work step kept
      obtain ⟨u, more, same, worked'⟩ := ih rest ((worked.keeps w).trans kept)
      exact ⟨u, .cons first more, same, worked.trans worked'⟩

/-- What a worker does leaves it to others whether one is meant to run. -/
theorem rest_of_step (step : m.step engine = some m') : m'.running = m.running ∧
    m'.parked = m.parked ∧ m'.worker.isSome = m.worker.isSome := by
  have enter (m : Worker.State) (phase : Phase) :
      (m.enter phase).worker.isSome = m.worker.isSome := Option.isSome_map
  obtain ⟨p, -, moves⟩ := Worker.State.exists_moves_of_step step
  cases moves with
  | quit => exact ⟨rfl, rfl, enter _ _⟩
  | receive => exact ⟨rfl, rfl, enter _ _⟩
  | turn => exact ⟨rfl, rfl, enter _ _⟩
  | beginPass =>
    rw [Worker.State.beginPass_eq]
    split
    · exact ⟨rfl, rfl, enter _ _⟩
    · exact ⟨rfl, rfl, enter _ _⟩
  | @endPass _ _ outcome =>
    cases outcome with
    | succeeded => exact ⟨rfl, rfl, enter _ _⟩
    | failed => exact ⟨rfl, rfl, enter _ _⟩
    | panicked => exact ⟨rfl, rfl, enter _ _⟩

/-- The worker is the one that was started last. -/
structure Tracks (m : Worker.State) (s : State) : Prop where
  loop : Loop.Stands m s.loop
  running : s.running = m.running
  parked : s.parked = m.parked
  /-- No worker listens from a moment that is yet to come. -/
  heard : ∀ n ∈ s.workers.map (·.heard), n ≤ s.told

theorem Tracks.wait (tracks : Tracks m s) (time : Nat) : Tracks { m with time } s :=
  ⟨⟨tracks.loop.desk, tracks.loop.worker⟩, tracks.running, tracks.parked, tracks.heard⟩

/-- Whatever the worker does is some steps of it, as long as somebody has its handle. -/
theorem Tracks.step (tracks : Tracks m s) (quiet : Quiet engine)
    (kept : ∀ w, w + 1 = s.workers.length → s.keeps w = true) (step : m.step engine = some m') :
    ∃ es t, Run s es t ∧ Tracks m' t ∧ Worked s t := by
  obtain ⟨w, deeds, l, run, last, loop, -⟩ := Loop.exists_run_step quiet tracks.loop step
  obtain ⟨t, works, rfl, worked⟩ := exists_run_works run (kept w (last.trans (List.length_map _)))
  obtain ⟨running, parked, -⟩ := rest_of_step step
  refine ⟨_, t, works, ⟨loop, ?_, ?_, ?_⟩, worked⟩
  · rw [worked.running, tracks.running, running]
  · rw [worked.parked, tracks.parked, parked]
  · rw [worked.heard, worked.told]
    exact tracks.heard

/-- The worker is done exactly if it is so here. -/
theorem Tracks.ended_iff (tracks : Tracks m s) (worker : m.worker = some p)
    (last : w + 1 = s.workers.length) : s.ended w = true ↔ p.phase = .finished := by
  obtain ⟨others, a, workers, shows⟩ := tracks.loop.worker worker
  have length := congrArg List.length workers
  rw [State.loop, List.length_map, List.length_append, ← last] at length
  obtain rfl : w = others.length := Nat.succ.inj length
  have here : (s.workers.map s.view)[others.length]? = some ⟨a, p.cancelled⟩ := by
    rw [show s.workers.map s.view = _ from workers, List.getElem?_concat_length]
  obtain ⟨r, here, view⟩ := Option.map_eq_some_iff.1 (List.getElem?_map.symm.trans here)
  rw [State.ended_iff here, show r.activity = a from congrArg Loop.Runner.activity view]
  generalize p.phase = phase at shows
  cases shows <;> simp

theorem Tracks.not_broken (tracks : Tracks m s) (worker : m.worker = some p) :
    p.phase ≠ .broken := by
  obtain ⟨others, a, -, shows⟩ := tracks.loop.worker worker
  intro broken
  rw [broken] at shows
  cases shows

/-- No call is in progress, and the handle of the worker is stored. -/
structure Stands (m : Worker.State) (s : State) : Prop extends Tracks m s where
  handle : m.worker.isSome = true → ∃ w, s.stored = some w ∧ w + 1 = s.workers.length
  vacant : m.worker = none → s.stored = none
  /-- The receiving end lies ready only where there is no worker. -/
  free : m.parked = true → m.worker = none

/-! ### Calls that start and stop it -/

/-- A call is in progress that was made last. -/
def State.during (s : State) (c : Call) : State := { s with calls := s.calls ++ [c] }

theorem step_during (calls : t.calls = s.calls) (act : Act (s.during c) c move (t.during c) c') :
    Step (s.during c) (.act s.calls.length move) (t.during c') := by
  have step := Step.act (s := s.during c) List.getElem?_concat_length act
  have same : (t.during c).calls.set s.calls.length c' = t.calls ++ [c'] := by
    rw [← calls]
    exact Loop.set_last ..
  rw [same] at step
  exact step

theorem store_during (vacant : s.stored = none) (w : Nat) (c : Call) :
    (s.during c).store w = { s with stored := some w }.during c :=
  State.store_of_vacant (s := s.during c) vacant w

theorem park_during (unready : s.parked = false) (c : Call) :
    (s.during c).park = { s with parked := true }.during c := by
  rw [State.park, show (s.during c).parked = false from unready]
  rfl

theorem step_park (unready : s.parked = false) : Step (s.during .joined)
    (.act s.calls.length .park) ({ s with parked := true }.during .stopped) := by
  refine step_during (t := { s with parked := true }) rfl ?_
  rw [← park_during unready]
  exact .park

theorem step_hand (vacant : s.stored = none) : Step (s.during (.spawned w))
    (.act s.calls.length .hand) ({ s with stored := some w }.during (.started none)) := by
  refine step_during (t := { s with stored := some w }) rfl ?_
  rw [← store_during vacant]
  exact .hand

theorem step_restore (vacant : s.stored = none) : Step (s.during (.late w))
    (.act s.calls.length .restore) ({ s with stored := some w }.during .stopped) := by
  refine step_during (t := { s with stored := some w }) rfl ?_
  rw [← store_during vacant]
  exact .restore

theorem Stands.during (stands : Stands m s) (c : Call) : Stands m (s.during c) :=
  ⟨⟨stands.loop, stands.running, stands.parked, stands.heard⟩, stands.handle, stands.vacant,
    stands.free⟩

/-- The state in which a start has stored the handle of its worker. -/
abbrev State.begun (s : State) : State := { s with
  told := s.told + 1
  stored := some s.workers.length
  workers := s.workers ++ [⟨.waiting, s.told + 1⟩] }

/-- A start that has the receiving end starts a worker. -/
theorem exists_run_holding (vacant : s.stored = none) :
    ∃ es, Run (s.during .holding) es (s.begun.during (.started none)) := by
  have clear := step_during (s := s) (t := { s with told := s.told + 1 }) rfl .clear
  have listen := step_during (s := { s with told := s.told + 1 }) rfl .listen
  have spawn := step_during (s := { s with told := s.told + 1 })
    (t := { s with told := s.told + 1, workers := s.workers ++ [⟨.waiting, s.told + 1⟩] }) rfl
    .spawn
  have hand := step_hand (s := { s with
    told := s.told + 1
    workers := s.workers ++ [⟨.waiting, s.told + 1⟩] }) (w := s.workers.length) vacant
  exact ⟨_, .cons clear (.cons listen (.cons spawn (.single hand)))⟩

theorem Stands.begun {deadline : Nat} (desk : Serves m.site s.desk)
    (heard : ∀ n ∈ s.workers.map (·.heard), n ≤ s.told) (running : s.running = m.running)
    (parked : s.parked = m.parked) (taken : m.parked = false)
    (worker : m.worker = some ⟨.waiting deadline, false⟩) : Stands m s.begun where
  loop := by
    refine ⟨desk, fun runs ↦ ?_⟩
    cases worker.symm.trans runs
    refine ⟨s.workers.map s.begun.view, .waiting, ?_, .waiting deadline⟩
    rw [State.loop, List.map_append]
    exact congrArg (fun told ↦ s.workers.map s.begun.view ++ [⟨.waiting, told⟩])
      (bne_self_eq_false (s.told + 1))
  running := running
  parked := parked
  heard := by
    intro n mem
    rw [List.map_append, List.mem_append] at mem
    rcases mem with old | new
    · exact Nat.le_succ_of_le (heard n old)
    · exact Nat.le_of_eq (List.mem_singleton.1 new)
  handle _ := by
    refine ⟨s.workers.length, rfl, ?_⟩
    rw [List.length_append]
    rfl
  vacant none := nomatch worker.symm.trans none
  free lies := nomatch lies.symm.trans taken

/-- A start that finds no receiving end fails. -/
theorem exists_run_refuse (off : s.running = false) (unready : s.parked = false)
    (none : ∀ w, s.stored = some w → s.ended w = false) :
    ∃ es, Run s es (s.during (.started (some .stillRunning))) := by
  have raise := step_during (s := s) (t := { s with running := true }) rfl (.raise off)
  have miss := step_during (s := { s with running := true }) rfl (.miss unready)
  have fail := step_during (s := { s with running := true }) rfl (.fail none)
  have refuse := step_during (s := { s with running := true }) (t := { s with running := false })
    rfl .refuse
  rw [show { s with running := false } = s from off ▸ rfl] at refuse
  exact ⟨_, .cons .start (.cons raise (.cons miss (.cons fail (.single refuse))))⟩

/-- What starting a worker answers and comes to. -/
inductive Launches (m : Worker.State) : Option LoopError → Worker.State → Prop
  | ignore (on : m.running = true) : Launches m none m
  | take (off : m.running = false) (lies : m.parked = true) : Launches m none { m with
      parked := false
      running := true
      worker := some ⟨.waiting (m.time + m.timing.idlePoll), false⟩ }
  | find {p : Process} (off : m.running = false) (unready : m.parked = false)
      (worker : m.worker = some p) (done : p.phase = .finished) : Launches m none { m with
      parked := false
      running := true
      worker := some ⟨.waiting (m.time + m.timing.idlePoll), false⟩ }
  | refuse (off : m.running = false) (unready : m.parked = false)
      (none : ∀ p, m.worker = some p → p.phase ≠ .finished) : Launches m (some .stillRunning) m

theorem launches_startWorker (whole : ∀ p, m.worker = some p → p.phase ≠ .broken) :
    Launches m m.startWorker.1 m.startWorker.2 := by
  unfold Worker.State.startWorker
  by_cases on : m.running = true
  · rw [if_pos on]
    exact .ignore on
  rw [if_neg on]
  have off := Bool.eq_false_iff.2 on
  unfold Worker.State.reclaim
  by_cases lies : m.parked = true
  · rw [if_pos lies]
    exact .take off lies
  rw [if_neg lies]
  have unready := Bool.eq_false_iff.2 lies
  obtain ⟨time, timing, parked, worker, running, passes, site⟩ := m
  cases unready
  cases worker with
  | none => exact .refuse off rfl nofun
  | some p =>
    obtain ⟨phase, cancelled⟩ := p
    cases phase with
    | finished => exact .find off rfl rfl rfl
    | broken => exact absurd rfl (whole _ rfl)
    | _ => exact .refuse off rfl (by rintro _ ⟨⟩ ⟨⟩)

/-- Starting a worker is the steps of one call, which comes to the same. -/
theorem exists_run_startWorker (stands : Stands m s) :
    ∃ es t, Run s es t ∧ Stands m.startWorker.2 t ∧
      t.calls = s.calls ++ [.started m.startWorker.1] := by
  have launches := launches_startWorker fun p ↦ stands.not_broken (p := p)
  generalize m.startWorker = answer at launches ⊢
  obtain ⟨error, m'⟩ := answer
  cases launches with
  | ignore on =>
    have ignore := step_during (s := s) rfl (.ignore (stands.running.trans on))
    exact ⟨_, _, .cons .start (.single ignore), stands.during _, rfl⟩
  | take off lies =>
    have raise := step_during (s := s) (t := { s with running := true }) rfl
      (.raise (stands.running.trans off))
    have take := step_during (s := { s with running := true })
      (t := { s with running := true, parked := false }) rfl (.take (stands.parked.trans lies))
    obtain ⟨es, holding⟩ := exists_run_holding (s := { s with running := true, parked := false })
      (stands.vacant (stands.free lies))
    refine ⟨_, _, .cons .start (.cons raise (.cons take holding)), ?_, rfl⟩
    apply Stands.during
    exact .begun stands.loop.desk stands.heard rfl rfl rfl rfl
  | find off unready worker done =>
    obtain ⟨w, there, last⟩ := stands.handle (by rw [worker]; rfl)
    have ended := (stands.ended_iff worker last).2 done
    have raise := step_during (s := s) (t := { s with running := true }) rfl
      (.raise (stands.running.trans off))
    have miss := step_during (s := { s with running := true }) rfl
      (.miss (stands.parked.trans unready))
    have find := step_during (s := { s with running := true })
      (t := { s with running := true, stored := none }) rfl (.find there ended)
    have collect := step_during (s := { s with running := true, stored := none }) rfl
      (.collect ended)
    obtain ⟨es, holding⟩ := exists_run_holding (s := { s with running := true, stored := none }) rfl
    refine ⟨_, _, .cons .start (.cons raise (.cons miss (.cons find (.cons collect holding)))), ?_,
      rfl⟩
    apply Stands.during
    exact .begun stands.loop.desk stands.heard rfl (stands.parked.trans unready) rfl rfl
  | refuse off unready busy =>
    have missed (w : Nat) (there : s.stored = some w) : s.ended w = false := by
      cases worker : m'.worker with
      | none => exact nomatch there.symm.trans (stands.vacant worker)
      | some p =>
        obtain ⟨v, there', last⟩ := stands.handle (by rw [worker]; rfl)
        cases there.symm.trans there'
        exact Bool.eq_false_iff.2 (mt (stands.ended_iff worker last).1 (busy p worker))
    obtain ⟨es, run⟩ := exists_run_refuse (stands.running.trans off) (stands.parked.trans unready)
      missed
    exact ⟨es, _, run, stands.during _, rfl⟩

/-- A stop that was called last has told the worker to stop and waits for it. -/
structure Awaits (m : Worker.State) (s : State) (calls : List Call) (w : Nat) : Prop
    extends Tracks m s where
  there : m.worker.isSome = true
  last : w + 1 = s.workers.length
  calls : s.calls = calls ++ [.awaiting w]
  vacant : s.stored = none
  unready : m.parked = false

variable {calls : List Call}

theorem Awaits.step (awaits : Awaits m s calls w) (quiet : Quiet engine)
    (step : m.step engine = some m') : ∃ es t, Run s es t ∧ Awaits m' t calls w := by
  have kept (v : Nat) (last : v + 1 = s.workers.length) : s.keeps v = true := by
    obtain rfl : v = w := Nat.succ.inj (last.trans awaits.last.symm)
    rw [State.keeps, awaits.calls]
    simp [Call.grip]
  obtain ⟨es, t, run, tracks, worked⟩ := awaits.toTracks.step quiet kept step
  obtain ⟨-, parked, there⟩ := rest_of_step step
  exact ⟨es, t, run, tracks, there.trans awaits.there, awaits.last.trans worked.length.symm,
    worked.calls.trans awaits.calls, worked.stored.trans awaits.vacant,
    parked.trans awaits.unready⟩

/-- A stop waits for a while in which the worker goes on. -/
theorem Awaits.advanceUntil (awaits : Awaits m s calls w) (quiet : Quiet engine)
    (enough : Worker.State → Bool) (target : Nat) :
    ∃ es t, Run s es t ∧
      Awaits ((Worker.State.timeline engine).advanceUntil enough target m) t calls w := by
  refine Time.Timeline.advanceUntil_of (m := Worker.State.timeline engine)
    (P := fun m ↦ ∃ es t, Run s es t ∧ Awaits m t calls w) ?_ ?_ enough target
    ⟨[], s, .nil s, awaits⟩
  · rintro m m' ⟨es, t, run, awaits⟩ step
    obtain ⟨fs, u, more, awaits⟩ := awaits.step quiet step
    exact ⟨es ++ fs, u, run.append more, awaits⟩
  · rintro m n ⟨es, t, run, awaits⟩
    exact ⟨es, t, run, awaits.toTracks.wait n, awaits.there, awaits.last, awaits.calls,
      awaits.vacant, awaits.unready⟩

/-- A worker that is told something hears of it. -/
theorem Stands.awaits (stands : Stands m s) (there : s.stored = some w)
    (runs : m.worker.isSome = true) :
    Awaits m.requestStop (State.during { s with
      running := false
      stored := none
      told := s.told + 1 } (.awaiting w)) s.calls w where
  loop := by
    refine ⟨stands.loop.desk, fun running ↦ ?_⟩
    obtain ⟨p, worker, rfl⟩ := Option.map_eq_some_iff.1 running
    obtain ⟨others, a, workers, shows⟩ := stands.loop.worker worker
    obtain ⟨older, rest, split, rfl, one⟩ := List.map_eq_append_iff.1 workers
    obtain ⟨r, rfl, own⟩ := List.map_eq_singleton_iff.1 one
    have old : r.heard ≤ s.told := by
      refine stands.heard _ ?_
      rw [split]
      simp
    have active : (s.view r).activity = a := by rw [own]
    have told : (r.heard != s.told + 1) = true :=
      bne_iff_ne.2 (Nat.ne_of_lt (Nat.lt_succ_of_le old))
    refine ⟨older.map fun r ↦ ⟨r.activity, r.heard != s.told + 1⟩, a, ?_, shows⟩
    show s.workers.map (fun r ↦ Loop.Runner.mk r.activity (r.heard != s.told + 1)) = _
    rw [split, List.map_append, List.map_singleton, told, show r.activity = a from active]
  running := rfl
  parked := stands.parked
  heard n mem := Nat.le_succ_of_le (stands.heard n mem)
  there := by rw [Worker.State.requestStop, Option.isSome_map, runs]
  last := by
    obtain ⟨v, there', last⟩ := stands.handle runs
    cases there.symm.trans there'
    exact last
  calls := rfl
  vacant := rfl
  unready := by
    refine Bool.eq_false_iff.2 fun lies ↦ ?_
    rw [stands.free lies] at runs
    cases runs

/-- A stop takes the receiving end, or stores the handle again. -/
theorem Awaits.exists_run_collect (awaits : Awaits m s calls w) :
    ∃ es t, Run s es t ∧ Stands m.collect t ∧ t.calls = calls ++ [.stopped] := by
  obtain ⟨p, worker⟩ := Option.isSome_iff_exists.1 awaits.there
  have whole := awaits.not_broken worker
  obtain ⟨r, during, calls_eq⟩ : ∃ r : State, s = r.during (.awaiting w) ∧ r.calls = calls :=
    ⟨{ s with calls := calls }, by rw [State.during, ← awaits.calls], rfl⟩
  subst during
  have ended := awaits.ended_iff worker awaits.last
  by_cases done : p.phase = .finished
  · have join := step_during (s := r) rfl (.join (ended.2 done))
    have park := step_park (s := r) (awaits.parked.trans awaits.unready)
    have collect : m.collect = { m with worker := none, parked := true } := by
      simp only [Worker.State.collect, worker, done]
    refine ⟨_, _, .cons join (.single park), ?_, ?_⟩
    · rw [collect]
      apply Stands.during
      exact ⟨⟨⟨awaits.loop.desk, nofun⟩, awaits.running, rfl, awaits.heard⟩, nofun,
        fun _ ↦ awaits.vacant, fun _ ↦ rfl⟩
    · rw [← calls_eq]
      rfl
  · have expire := step_during (s := r) rfl (.expire (w := w))
    have restore := step_restore (s := r) (w := w) awaits.vacant
    have collect : m.collect = m := by
      rw [Worker.State.collect, worker]
      dsimp only
      split
      · exact absurd ‹_› done
      · exact absurd ‹_› whole
      · rfl
    refine ⟨_, _, .cons expire (.single restore), ?_, ?_⟩
    · rw [collect]
      apply Stands.during
      refine ⟨⟨⟨awaits.loop.desk, awaits.loop.worker⟩, awaits.running, awaits.parked, awaits.heard⟩,
        fun _ ↦ ⟨w, rfl, awaits.last⟩, fun none ↦ ?_, fun lies ↦ ?_⟩
      · cases worker.symm.trans none
      · cases lies.symm.trans awaits.unready
    · rw [← calls_eq]
      rfl

/-- Stopping the worker is the steps of one call. -/
theorem exists_run_stop (quiet : Quiet engine) (stands : Stands m s) :
    ∃ es t, Run s es t ∧ Stands (m.stop engine) t ∧ t.calls = s.calls ++ [.stopped] := by
  have lower := step_during (s := s) (t := { s with running := false }) rfl .lower
  unfold Worker.State.stop
  cases worker : m.worker with
  | none =>
    have idle := step_during (s := { s with running := false }) rfl (.idle (stands.vacant worker))
    refine ⟨_, _, .cons .stop (.cons lower (.single idle)), ?_, rfl⟩
    apply Stands.during
    exact ⟨⟨⟨stands.loop.desk, nofun⟩, rfl, stands.parked, stands.heard⟩, nofun,
      fun _ ↦ stands.vacant worker, fun _ ↦ rfl⟩
  | some p =>
    have runs : m.worker.isSome = true := by rw [worker]; rfl
    obtain ⟨w, there, last⟩ := stands.handle runs
    have seize := step_during (s := { s with running := false })
      (t := { s with running := false, stored := none }) rfl (.seize there)
    have tell := step_during (s := { s with running := false, stored := none })
      (t := { s with running := false, stored := none, told := s.told + 1 }) rfl (.tell (w := w))
    obtain ⟨es, t, waits, awaits⟩ := (stands.awaits there runs).advanceUntil quiet
      Worker.State.isOver (m.time + Worker.State.stopTimeout)
    obtain ⟨fs, u, collects, stands, calls⟩ := awaits.exists_run_collect
    exact ⟨_, u, .cons .stop (.cons lower (.cons seize (.cons tell (waits.append collects)))),
      stands, calls⟩

/-! ### Whatever becomes of it -/

/-- What becomes of the worker while components are handed in and it is started and stopped. -/
inductive Course (engine : Engine) (m : Worker.State) : Worker.State → Prop
  | nil : Course engine m m
  | mark {m' : Worker.State} {id : ComponentId} {site : Site} : Course engine m m' →
      m'.site.mark id = .ok site → Course engine m { m' with site }
  | wake {m' : Worker.State} (id : ComponentId) : Course engine m m' →
      Course engine m { m' with site := (m'.site.wake id).2 }
  | step {m' m'' : Worker.State} : Course engine m m' → m'.step engine = some m'' →
      Course engine m m''
  | wait {m' : Worker.State} (time : Nat) : Course engine m m' → Course engine m { m' with time }
  | start {m' : Worker.State} : Course engine m m' → Course engine m m'.startWorker.2
  | stop {m' : Worker.State} : Course engine m m' → Course engine m (m'.stop engine)

/-- Marking a component is one step. -/
theorem exists_run_mark (stands : Stands m s) (marked : m.site.mark id = .ok site) :
    ∃ es t, Run s es t ∧ Stands { m with site } t := by
  obtain ⟨taken, rfl⟩ := Site.mark_eq_ok_iff.1 marked
  obtain ⟨mark, desk⟩ := stands.loop.desk.mark id
  rw [Site.markIfOpen_eq, taken] at mark desk
  exact ⟨_, _, .single (.mark mark), ⟨⟨desk, stands.loop.worker⟩, stands.running, stands.parked,
    stands.heard⟩, stands.handle, stands.vacant, stands.free⟩

/-- Trying to wake the worker is one step. -/
theorem exists_run_wake (stands : Stands m s) (id : ComponentId) :
    ∃ es t, Run s es t ∧ Stands { m with site := (m.site.wake id).2 } t := by
  have desk := stands.loop.desk
  have wake : Step s (.wake id (s.desk.queue.push id).1)
    { s with desk := { s.desk with queue := (s.desk.queue.push id).2 } } := .wake rfl
  refine ⟨_, _, .single wake, ⟨⟨⟨desk.taken, desk.marks, ?_⟩, stands.loop.worker⟩, stands.running,
    stands.parked, stands.heard⟩, stands.handle, stands.vacant, stands.free⟩
  exact congrArg (fun q ↦ (Queue.push id q).2) desk.queue

/-- Whatever the worker does is some steps. -/
theorem Stands.step (stands : Stands m s) (quiet : Quiet engine) (step : m.step engine = some m') :
    ∃ es t, Run s es t ∧ Stands m' t := by
  obtain ⟨-, parked, same⟩ := rest_of_step step
  have runs : m.worker.isSome = true := by
    obtain ⟨p, worker, -⟩ := Worker.State.exists_moves_of_step step
    rw [worker]
    rfl
  obtain ⟨w, there, last⟩ := stands.handle runs
  have kept (v : Nat) (last' : v + 1 = s.workers.length) : s.keeps v = true := by
    obtain rfl : v = w := Nat.succ.inj (last'.trans last.symm)
    simp [State.keeps, there]
  obtain ⟨es, t, run, tracks, worked⟩ := stands.toTracks.step quiet kept step
  refine ⟨es, t, run, tracks, fun _ ↦ ⟨w, ?_, ?_⟩, fun none ↦ ?_, fun lies ↦ ?_⟩
  · exact worked.stored.trans there
  · exact last.trans worked.length.symm
  · rw [← same, none] at runs
    cases runs
  · rw [stands.free (parked.symm.trans lies)] at runs
    cases runs

/-- Whatever becomes of the worker is some steps. -/
theorem Course.exists_run (course : Course engine m m') (quiet : Quiet engine)
    (stands : Stands m s) : ∃ es t, Run s es t ∧ Stands m' t := by
  induction course with
  | nil => exact ⟨_, _, .nil s, stands⟩
  | mark _ marked ih =>
    obtain ⟨es, t, run, stands⟩ := ih
    obtain ⟨fs, u, more, stands⟩ := exists_run_mark stands marked
    exact ⟨_, u, run.append more, stands⟩
  | wake id _ ih =>
    obtain ⟨es, t, run, stands⟩ := ih
    obtain ⟨fs, u, more, stands⟩ := exists_run_wake stands id
    exact ⟨_, u, run.append more, stands⟩
  | step _ step ih =>
    obtain ⟨es, t, run, stands⟩ := ih
    obtain ⟨fs, u, more, stands⟩ := stands.step quiet step
    exact ⟨_, u, run.append more, stands⟩
  | wait time _ ih =>
    obtain ⟨es, t, run, stands⟩ := ih
    exact ⟨_, t, run, stands.toTracks.wait time, stands.handle, stands.vacant, stands.free⟩
  | start _ ih =>
    obtain ⟨es, t, run, stands⟩ := ih
    obtain ⟨fs, u, more, stands, -⟩ := exists_run_startWorker stands
    exact ⟨_, u, run.append more, stands⟩
  | stop _ ih =>
    obtain ⟨es, t, run, stands⟩ := ih
    obtain ⟨fs, u, more, stands, -⟩ := exists_run_stop quiet stands
    exact ⟨_, u, run.append more, stands⟩

/-- No worker has been started, and no call was made. -/
def State.ofSite (site : Site) : State where
  desk := ⟨site.marks, site.queue, []⟩
  told := 0
  running := false
  parked := true
  stored := none
  workers := []
  calls := []

theorem stands_start (timing : Timing) (taken : site.marks.closed = false) :
    Stands (.start timing site) (.ofSite site) :=
  ⟨⟨⟨⟨taken, rfl, rfl⟩, nofun⟩, rfl, rfl, nofun⟩, nofun, fun _ ↦ rfl, fun _ ↦ rfl⟩

end Cascade.Worker.Custody
