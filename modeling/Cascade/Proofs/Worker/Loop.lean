import Cascade.Proofs.IdMap
import Cascade.Proofs.Worker.Step

/-!
# The worker's loop step by step

Components are handed in by any number of calls, each of which marks its component and then tries to
wake the worker.  A worker takes a wake-up and marks its component, comes to the end of a wait,
takes all marks, runs a pass over them, and marks them again one by one if the pass fails.  Workers
are started at any moment and told to stop at any moment, which they notice only while they wait.
The steps of all of them come in any order (`Step`).  No mark is refused here, but marks may fail to
be taken, which leaves them where they are.

Whatever becomes of the worker as it runs, with components handed in, workers started and stopped,
and time passing in between (`Course`), is such steps (`Course.exists_run`).  Who holds the queue's
receiving end is not followed here, so more workers may be started than it would allow.
-/

namespace Cascade.Worker.Loop

open Store

/-! ## States -/

/-- How far a call that hands in a component has come. -/
inductive Stage where
  | called
  | marked
  /-- It has returned, and its wake-up found room or not. -/
  | returned (room : Bool)

/-- A call that hands in a component. -/
structure Call where
  component : ComponentId
  stage : Stage

inductive Activity where
  | waiting
  | coalescing
  /-- It has taken a wake-up and is about to mark its component. -/
  | holding (id : ComponentId)
  /-- Its wait is over, and it is about to take all marks. -/
  | due
  | passing (pass : Nat)
  /-- Its pass failed, and some components are yet to be marked again. -/
  | restoring (left : List ComponentId)
  | finished

structure Runner where
  activity : Activity
  cancelled : Bool

/-- What workers and calls share. -/
structure Desk where
  marks : Marks
  queue : Queue
  /-- The components of each pass that has begun, the first pass first. -/
  passes : List IdSet

/-- The calls and the workers. -/
structure State where
  desk : Desk
  calls : List Call
  workers : List Runner

/-! ## Steps -/

/-- What a worker does in a step. -/
inductive Deed where
  /-- It notices that it was told to stop. -/
  | quit
  | receive (id : ComponentId)
  /-- It marks the component of a wake-up. -/
  | note (id : ComponentId)
  /-- Its wait for a first wake-up ends without one. -/
  | poll
  /-- Its wait for more wake-ups ends. -/
  | close
  /-- It finds nothing marked. -/
  | rest
  /-- It cannot take the marks. -/
  | jam
  /-- It takes all marks and begins a pass. -/
  | begin (pass : Nat)
  | succeed (pass : Nat)
  | fail (pass : Nat)
  | restore (id : ComponentId)
  /-- It waits again after a pass that failed. -/
  | resume
deriving DecidableEq

inductive Event where
  | call (id : ComponentId)
  | mark (call : Nat) (id : ComponentId)
  /-- A call tries to wake the worker and returns. -/
  | wake (call : Nat) (room : Bool)
  | start
  | cancel (worker : Nat)
  | work (worker : Nat) (deed : Deed)
deriving DecidableEq

/-- What a worker may do, and what it does then. -/
inductive Work : Desk → Runner → Deed → Desk → Activity → Prop
  | quit {d : Desk} {r : Runner} (idle : r.activity = .waiting ∨ r.activity = .coalescing)
      (told : r.cancelled = true) : Work d r .quit d .finished
  | receive {d : Desk} {r : Runner} {id : ComponentId} {queue : Queue}
      (idle : r.activity = .waiting ∨ r.activity = .coalescing)
      (next : d.queue.pop? = some (id, queue)) :
      Work d r (.receive id) { d with queue } (.holding id)
  | note {d : Desk} {r : Runner} {id : ComponentId} {marks : Marks}
      (holding : r.activity = .holding id) (marked : d.marks.mark id = .ok marks) :
      Work d r (.note id) { d with marks } .coalescing
  | poll {d : Desk} {r : Runner} (waiting : r.activity = .waiting) (none : d.queue.pop? = none) :
      Work d r .poll d .due
  | close {d : Desk} {r : Runner} (coalescing : r.activity = .coalescing) : Work d r .close d .due
  | rest {d : Desk} {r : Runner} (due : r.activity = .due) (none : d.marks.ids.isEmpty = true) :
      Work d r .rest d .waiting
  | jam {d : Desk} {r : Runner} (due : r.activity = .due) : Work d r .jam d .waiting
  | begin {d : Desk} {r : Runner} (due : r.activity = .due)
      (some : d.marks.ids.isEmpty = false) :
      Work d r (.begin d.passes.length)
        { d with marks := d.marks.drain.2, passes := d.passes ++ [d.marks.drain.1] }
        (.passing d.passes.length)
  | succeed {d : Desk} {r : Runner} {pass : Nat} (passing : r.activity = .passing pass) :
      Work d r (.succeed pass) d .waiting
  | fail {d : Desk} {r : Runner} {pass : Nat} {dirty : IdSet} (passing : r.activity = .passing pass)
      (took : d.passes[pass]? = some dirty) : Work d r (.fail pass) d (.restoring dirty.keys)
  | restore {d : Desk} {r : Runner} {id : ComponentId} {left : List ComponentId} {marks : Marks}
      (restoring : r.activity = .restoring (id :: left)) (marked : d.marks.mark id = .ok marks) :
      Work d r (.restore id) { d with marks } (.restoring left)
  | resume {d : Desk} {r : Runner} (restoring : r.activity = .restoring []) :
      Work d r .resume d .waiting

inductive Step : State → Event → State → Prop
  | call {s : State} (id : ComponentId) :
      Step s (.call id) { s with calls := s.calls ++ [⟨id, .called⟩] }
  | mark {s : State} {k : Nat} {call : Call} {marks : Marks} (here : s.calls[k]? = some call)
      (stage : call.stage = .called) (marked : s.desk.marks.mark call.component = .ok marks) :
      Step s (.mark k call.component) { s with
        desk := { s.desk with marks }
        calls := s.calls.set k { call with stage := .marked } }
  | wake {s : State} {k : Nat} {call : Call} {room : Bool} {queue : Queue}
      (here : s.calls[k]? = some call) (stage : call.stage = .marked)
      (pushed : s.desk.queue.push call.component = (room, queue)) :
      Step s (.wake k room) { s with
        desk := { s.desk with queue }
        calls := s.calls.set k { call with stage := .returned room } }
  | start {s : State} : Step s .start { s with workers := s.workers ++ [⟨.waiting, false⟩] }
  | cancel {s : State} {w : Nat} {r : Runner} (here : s.workers[w]? = some r) :
      Step s (.cancel w) { s with workers := s.workers.set w { r with cancelled := true } }
  | work {s : State} {w : Nat} {r : Runner} {deed : Deed} {desk : Desk} {activity : Activity}
      (here : s.workers[w]? = some r) (work : Work s.desk r deed desk activity) :
      Step s (.work w deed) { s with desk, workers := s.workers.set w { r with activity } }

/-- Steps one after another, with their events. -/
inductive Run : State → List Event → State → Prop
  | nil (s : State) : Run s [] s
  | cons {s t u : State} {e : Event} {es : List Event} :
      Step s e t → Run t es u → Run s (e :: es) u

variable {s t u : State} {e : Event} {es fs : List Event} {w : Nat} {r : Runner}

theorem Run.single (step : Step s e t) : Run s [e] t := .cons step (.nil t)

theorem Run.append (first : Run s es t) (second : Run t fs u) : Run s (es ++ fs) u := by
  induction first with
  | nil s => exact second
  | cons step _ ih => exact .cons step (ih second)

theorem Run.exists_cons {P : State → Prop} (step : Step s e t) (rest : ∃ u, Run t es u ∧ P u) :
    ∃ u, Run s (e :: es) u ∧ P u := by
  obtain ⟨u, run, h⟩ := rest
  exact ⟨u, .cons step run, h⟩

theorem Run.split (run : Run s (es ++ fs) u) : ∃ t, Run s es t ∧ Run t fs u := by
  induction es generalizing s with
  | nil => exact ⟨s, .nil s, run⟩
  | cons e es ih =>
    cases run with
    | cons step rest =>
      obtain ⟨t, first, second⟩ := ih rest
      exact ⟨t, .cons step first, second⟩

/-! ## The worker as it runs -/

/-- Passes always end, and leave the marks and the queue alone. -/
structure Quiet (engine : Engine) : Prop extends Spares engine where
  /-- No pass breaks down. -/
  ends (n time : Nat) (dirty : IdSet) (site : Site) : (engine n time dirty site).1.2 ≠ .panicked

/-- An activity is what a phase of the worker is here. -/
inductive Shows (passes : List IdSet) : Phase → Activity → Prop
  | waiting (deadline : Nat) : Shows passes (.waiting deadline) .waiting
  /-- A worker that is about to look for a wake-up may still go on waiting. -/
  | polled : Shows passes .polled .waiting
  | coalescing (deadline : Nat) : Shows passes (.coalescing deadline) .coalescing
  | due : Shows passes .due .due
  | passing {deadline pass : Nat} {dirty : IdSet} {outcome : Outcome}
      (took : passes[pass]? = some dirty) (ends : outcome ≠ .panicked) :
      Shows passes (.passing deadline dirty outcome) (.passing pass)
  | finished : Shows passes .finished .finished

theorem Shows.waits {passes : List IdSet} {phase : Phase} {a : Activity}
    (shows : Shows passes phase a) (idle : phase.Idle) : a = .waiting ∨ a = .coalescing := by
  cases idle with
  | waiting deadline =>
    cases shows
    exact .inl rfl
  | coalescing deadline =>
    cases shows
    exact .inr rfl

/-- The marks and the queue are those of a site that takes marks. -/
structure Serves (site : Site) (d : Desk) : Prop where
  taken : site.marks.closed = false
  marks : d.marks = site.marks
  queue : d.queue = site.queue

/-- The worker of a state is the one that was started last. -/
structure Stands (m : Worker.State) (s : State) : Prop where
  /-- Both have the same marks and queue. -/
  desk : Serves m.site s.desk
  /-- The worker does the same, and was told the same. -/
  worker {p : Process} : m.worker = some p → ∃ others activity,
    s.workers = others ++ [⟨activity, p.cancelled⟩] ∧ Shows s.desk.passes p.phase activity

variable {m m' : Worker.State} {engine : Engine} {p : Process} {id : ComponentId} {site : Site}
  {d d' : Desk} {calls : List Call} {others : List Runner} {a a' : Activity} {told : Bool}
  {deed : Deed}

theorem Serves.mark (serves : Serves site d) (id : ComponentId) :
    d.marks.mark id = .ok (site.markIfOpen id).marks ∧
      Serves (site.markIfOpen id) { d with marks := (site.markIfOpen id).marks } := by
  have marked : site.marks.mark id = .ok { site.marks with ids := site.marks.ids.add id } := by
    simp [Marks.mark, serves.taken]
  have after : (site.markIfOpen id).marks = { site.marks with ids := site.marks.ids.add id } := by
    show site.marks.markIfOpen id = _
    rw [Marks.markIfOpen, marked]
  refine ⟨?_, ?_, rfl, serves.queue⟩
  · rw [serves.marks, after, marked]
  · rw [after]
    exact serves.taken

theorem set_last {α : Type} (l : List α) (x y : α) : (l ++ [x]).set l.length y = l ++ [y] := by
  simp

/-- The state in which the worker that was started last does something. -/
abbrev State.last (d : Desk) (calls : List Call) (others : List Runner) (a : Activity)
    (told : Bool) : State :=
  ⟨d, calls, others ++ [⟨a, told⟩]⟩

theorem step_last (calls : List Call) (others : List Runner) (work : Work d ⟨a, told⟩ deed d' a') :
    Step (.last d calls others a told) (.work others.length deed)
      (.last d' calls others a' told) := by
  have step := Step.work (s := .last d calls others a told) List.getElem?_concat_length work
  rwa [set_last] at step

theorem Stands.enter {phase : Phase} (worker : m.worker = some p) (desk : Serves m.site d)
    (shows : Shows d.passes phase a) :
    Stands (m.enter phase) (.last d calls others a p.cancelled) where
  desk := desk
  worker running := by
    rw [Worker.State.enter, worker] at running
    cases running
    exact ⟨others, a, rfl, shows⟩

/-- Handing in a component is the steps of one call. -/
theorem exists_run_submit {room : Bool} (stands : Stands m s)
    (submitted : m.site.submit id = .ok (room, site)) :
    ∃ es t, Run s es t ∧ Stands { m with site } t ∧
      t.calls = s.calls ++ [⟨id, .returned room⟩] := by
  have ⟨marked, desk⟩ := stands.desk.mark id
  have call : Step s (.call id) { s with calls := s.calls ++ [⟨id, .called⟩] } := .call id
  have mark := Step.mark (s := { s with calls := s.calls ++ [⟨id, .called⟩] })
    List.getElem?_concat_length rfl marked
  have wake := Step.wake
    (s := ⟨{ s.desk with marks := (m.site.markIfOpen id).marks }, s.calls ++ [⟨id, .marked⟩],
      s.workers⟩)
    List.getElem?_concat_length rfl (congrArg (Queue.push id) desk.queue)
  rw [Site.submit, Site.mark, ← stands.desk.marks, marked] at submitted
  cases submitted
  rw [set_last] at mark wake
  exact ⟨_, _, .cons call (.cons mark (.single wake)), ⟨⟨desk.taken, rfl, rfl⟩, stands.worker⟩,
    rfl⟩

/-- Receiving a wake-up is to take it and to mark its component. -/
theorem run_receive (calls : List Call) (others : List Runner) (told : Bool) {queue : Queue}
    (desk : Serves m.site d)
    (idle : a = .waiting ∨ a = .coalescing) (next : m.site.queue.pop? = some (id, queue)) :
    ∃ d', Run (.last d calls others a told)
        [.work others.length (.receive id), .work others.length (.note id)]
        (.last d' calls others .coalescing told) ∧
      Serves (m.receive id queue).site d' ∧ d'.passes = d.passes := by
  have receive := step_last calls others
    (Work.receive (d := d) (r := ⟨a, told⟩) idle (desk.queue ▸ next))
  have held : Serves { m.site with queue } { d with queue } := ⟨desk.taken, desk.marks, rfl⟩
  have ⟨marked, after⟩ := held.mark id
  have note := step_last calls others
    (Work.note (d := { d with queue }) (r := ⟨.holding id, told⟩) rfl marked)
  exact ⟨_, .cons receive (.single note), after, rfl⟩

/-- Marking components again is one step for each. -/
theorem run_restore (calls : List Call) (others : List Runner) (told : Bool)
    (left : List ComponentId) (desk : Serves site d) :
    ∃ d', Run (.last d calls others (.restoring left) told)
        ((left.map .restore).map (.work others.length))
        (.last d' calls others (.restoring []) told) ∧
      Serves (left.foldl (fun site id ↦ site.markIfOpen id) site) d' ∧ d'.passes = d.passes := by
  induction left generalizing site d with
  | nil => exact ⟨d, .nil _, desk, rfl⟩
  | cons id left ih =>
    have ⟨marked, after⟩ := desk.mark id
    have restore := step_last calls others
      (Work.restore (d := d) (r := ⟨.restoring (id :: left), told⟩) rfl marked)
    obtain ⟨d', run, serves, passes⟩ := ih after
    exact ⟨d', .cons restore run, serves, passes⟩

theorem drain_of_isEmpty {marks : Marks} (none : marks.ids.isEmpty = true) :
    marks.drain.2 = marks := by
  obtain ⟨⟨entries, sorted⟩, closed⟩ := marks
  obtain rfl : entries = [] := List.isEmpty_iff.1 none
  rfl

/-- Beginning a pass is one step, and so is finding nothing marked. -/
theorem exists_step_beginPass (calls : List Call) (others : List Runner)
    (quiet : Quiet engine) (worker : m.worker = some p) (desk : Serves m.site d) :
    ∃ deed t, Step (.last d calls others .due p.cancelled) (.work others.length deed) t ∧
      Stands (m.beginPass engine) t ∧ t.calls = calls := by
  rw [Worker.State.beginPass_eq]
  by_cases none : m.site.marks.ids.isEmpty = true
  · have rest := step_last calls others
      (Work.rest (d := d) (r := ⟨.due, p.cancelled⟩) rfl (desk.marks ▸ none))
    refine ⟨_, _, rest, ?_, rfl⟩
    rw [if_pos none, Worker.State.drained, drain_of_isEmpty none]
    exact .enter worker desk (.waiting _)
  · have begin := step_last calls others
      (Work.begin (d := d) (r := ⟨.due, p.cancelled⟩) rfl (desk.marks ▸ Bool.eq_false_iff.2 none))
    refine ⟨_, _, begin, ?_, rfl⟩
    rw [if_neg none]
    refine .enter worker ⟨?_, ?_, ?_⟩ (.passing ?_ (quiet.ends _ _ _ _))
    · rw [quiet.marks]
      exact desk.taken
    · rw [quiet.marks]
      exact congrArg (fun marks ↦ (Marks.drain marks).2) desk.marks
    · rw [quiet.queue]
      exact desk.queue
    · rw [List.getElem?_concat_length, desk.marks]
      rfl

/-- Ending a pass is one step, and marking its components again is one step for each. -/
theorem exists_run_endPass {dirty : IdSet} {outcome : Outcome} {pass : Nat}
    (worker : m.worker = some p) (desk : Serves m.site d)
    (took : d.passes[pass]? = some dirty) (ends : outcome ≠ .panicked) :
    ∃ (deeds : List Deed) (t : State), Run (.last d calls others (.passing pass) p.cancelled)
        (deeds.map (.work others.length)) t ∧
      Stands (m.endPass dirty outcome) t ∧ t.calls = calls := by
  cases outcome with
  | succeeded =>
    have succeed := step_last calls others
      (Work.succeed (d := d) (r := ⟨.passing pass, p.cancelled⟩) rfl)
    exact ⟨[.succeed pass], _, .single succeed, .enter worker desk (.waiting _), rfl⟩
  | failed =>
    have fail := step_last calls others
      (Work.fail (d := d) (r := ⟨.passing pass, p.cancelled⟩) rfl took)
    obtain ⟨d', restored, serves, -⟩ := run_restore calls others p.cancelled
      dirty.keys desk
    have resume := step_last calls others
      (Work.resume (d := d') (r := ⟨.restoring [], p.cancelled⟩) rfl)
    have run := Run.cons fail (restored.append (.single resume))
    rw [show [Event.work others.length .resume] = [Deed.resume].map (.work others.length) from rfl,
      ← List.map_append] at run
    refine ⟨.fail pass :: (dirty.keys.map Deed.restore ++ [Deed.resume]), _, run, ?_, rfl⟩
    exact .enter (m := m.restore dirty) worker serves (.waiting _)
  | panicked => exact absurd rfl ends

/-- Whatever the worker does is some steps of it. -/
theorem exists_run_step (quiet : Quiet engine) (stands : Stands m s)
    (step : m.step engine = some m') :
    ∃ (w : Nat) (deeds : List Deed) (t : State), Run s (deeds.map (.work w)) t ∧
      w + 1 = s.workers.length ∧ Stands m' t ∧ t.calls = s.calls := by
  obtain ⟨p, worker, moves⟩ := Worker.State.exists_moves_of_step step
  obtain ⟨others, a, workers, shows⟩ := stands.worker worker
  have desk := stands.desk
  obtain ⟨d, calls, _⟩ := s
  cases workers
  have last : others.length + 1 = (others ++ [Runner.mk a p.cancelled]).length := by
    rw [List.length_append]
    rfl
  cases moves with
  | quit idle told =>
    have quit := step_last calls others
      (Work.quit (d := d) (r := ⟨a, p.cancelled⟩) (shows.waits idle) told)
    exact ⟨_, [.quit], _, .single quit, last, .enter worker desk .finished, rfl⟩
  | @receive id queue deadline opens next =>
    obtain ⟨d', run, serves, -⟩ := run_receive calls others p.cancelled desk
      (shows.waits opens.idle) next
    exact ⟨_, [.receive id, .note id], _, run, last,
      .enter (m := m.receive id queue) worker serves (.coalescing _), rfl⟩
  | turn turns =>
    generalize p.phase = phase at turns shows
    cases turns with
    | poll =>
      cases shows
      exact ⟨_, [], _, .nil _, last, .enter worker desk .polled, rfl⟩
    | resume =>
      cases shows
      exact ⟨_, [], _, .nil _, last, .enter worker desk (.waiting _), rfl⟩
    | look none =>
      cases shows
      have empty : d.queue.pop? = .none := desk.queue ▸ Queue.pop?_eq_none_iff.2 none
      have poll := step_last calls others
        (Work.poll (d := d) (r := ⟨.waiting, p.cancelled⟩) rfl empty)
      exact ⟨_, [.poll], _, .single poll, last, .enter worker desk .due, rfl⟩
    | close =>
      cases shows
      have close := step_last calls others
        (Work.close (d := d) (r := ⟨.coalescing, p.cancelled⟩) rfl)
      exact ⟨_, [.close], _, .single close, last, .enter worker desk .due, rfl⟩
  | beginPass due =>
    rw [due] at shows
    cases shows
    obtain ⟨deed, t, step, stands', same⟩ := exists_step_beginPass calls others quiet worker desk
    exact ⟨_, [deed], t, .single step, last, stands', same⟩
  | endPass passing =>
    rw [passing] at shows
    cases shows with
    | passing took ends =>
      obtain ⟨deeds, t, run, stands', same⟩ := exists_run_endPass worker desk took ends
      exact ⟨_, deeds, t, run, last, stands', same⟩

/-- Starting a worker is one step, and no step where one runs. -/
theorem exists_run_startWorker (stands : Stands m s) :
    ∃ es t, Run s es t ∧ Stands m.startWorker.2 t ∧ t.calls = s.calls := by
  have starts := m.starts_startWorker
  generalize m.startWorker.2 = m' at starts ⊢
  cases starts with
  | same => exact ⟨_, _, .nil s, stands, rfl⟩
  | drop => exact ⟨_, _, .nil s, ⟨stands.desk, nofun⟩, rfl⟩
  | start parked =>
    refine ⟨_, _, .single .start, ⟨stands.desk, fun running ↦ ?_⟩, rfl⟩
    cases running
    exact ⟨s.workers, .waiting, rfl, .waiting _⟩

/-- Asking the worker to stop is one step. -/
theorem exists_run_requestStop (stands : Stands m s) :
    ∃ es t, Run s es t ∧ Stands m.requestStop t ∧ t.calls = s.calls := by
  cases worker : m.worker with
  | none =>
    refine ⟨_, _, .nil s, ⟨stands.desk, fun running ↦ ?_⟩, rfl⟩
    rw [Worker.State.requestStop, worker] at running
    cases running
  | some p =>
    obtain ⟨others, a, workers, shows⟩ := stands.worker worker
    obtain ⟨d, calls, _⟩ := s
    cases workers
    have cancel := Step.cancel (s := .last d calls others a p.cancelled)
      List.getElem?_concat_length
    rw [set_last] at cancel
    refine ⟨_, _, .single cancel, ⟨stands.desk, fun running ↦ ?_⟩, rfl⟩
    rw [Worker.State.requestStop, worker] at running
    cases running
    exact ⟨others, a, rfl, shows⟩

theorem Stands.collect (stands : Stands m s) : Stands m.collect s := by
  unfold Worker.State.collect
  split
  · exact stands
  · split
    · exact ⟨stands.desk, nofun⟩
    · exact ⟨stands.desk, nofun⟩
    · exact stands

/-- What becomes of the worker while components are handed in. -/
inductive Course (engine : Engine) (m : Worker.State) : List ComponentId → Worker.State → Prop
  | nil : Course engine m [] m
  | submit {ids : List ComponentId} {m' : Worker.State} {id : ComponentId} {room : Bool}
      {site : Site} : Course engine m ids m' → m'.site.submit id = .ok (room, site) →
      Course engine m (ids ++ [id]) { m' with site }
  | step {ids : List ComponentId} {m' m'' : Worker.State} :
      Course engine m ids m' → m'.step engine = some m'' → Course engine m ids m''
  | wait {ids : List ComponentId} {m' : Worker.State} (time : Nat) :
      Course engine m ids m' → Course engine m ids { m' with time }
  | start {ids : List ComponentId} {m' : Worker.State} :
      Course engine m ids m' → Course engine m ids m'.startWorker.2
  | requestStop {ids : List ComponentId} {m' : Worker.State} :
      Course engine m ids m' → Course engine m ids m'.requestStop
  | collect {ids : List ComponentId} {m' : Worker.State} :
      Course engine m ids m' → Course engine m ids m'.collect

/-- Whatever becomes of the worker is some steps, in which a call for each component returns. -/
theorem Course.exists_run {ids : List ComponentId} (course : Course engine m ids m')
    (quiet : Quiet engine) (stands : Stands m s) :
    ∃ es t, Run s es t ∧ Stands m' t ∧ ∃ calls, t.calls = s.calls ++ calls ∧
      calls.map (·.component) = ids ∧ ∀ call ∈ calls, ∃ room, call.stage = .returned room := by
  induction course with
  | nil => exact ⟨_, _, .nil s, stands, [], by simp⟩
  | @submit ids m' id room site _ submitted ih =>
    obtain ⟨es, t, run, stands, calls, eq, components, returned⟩ := ih
    obtain ⟨es', u, run', stands', eq'⟩ := exists_run_submit stands submitted
    refine ⟨_, u, run.append run', stands', calls ++ [⟨id, .returned room⟩], ?_, ?_, ?_⟩
    · rw [eq', eq, List.append_assoc]
    · rw [List.map_append, components]
      rfl
    · intro call mem
      rcases List.mem_append.1 mem with old | new
      · exact returned call old
      · exact ⟨room, (List.mem_singleton.1 new) ▸ rfl⟩
  | step _ step ih =>
    obtain ⟨es, t, run, stands, calls, eq, rest⟩ := ih
    obtain ⟨w, deeds, u, run', -, stands', eq'⟩ := exists_run_step quiet stands step
    exact ⟨_, u, run.append run', stands', calls, eq' ▸ eq, rest⟩
  | wait time _ ih =>
    obtain ⟨es, t, run, stands, rest⟩ := ih
    exact ⟨es, t, run, ⟨stands.desk, stands.worker⟩, rest⟩
  | start _ ih =>
    obtain ⟨es, t, run, stands, calls, eq, rest⟩ := ih
    obtain ⟨es', u, run', stands', eq'⟩ := exists_run_startWorker stands
    exact ⟨_, u, run.append run', stands', calls, eq' ▸ eq, rest⟩
  | requestStop _ ih =>
    obtain ⟨es, t, run, stands, calls, eq, rest⟩ := ih
    obtain ⟨es', u, run', stands', eq'⟩ := exists_run_requestStop stands
    exact ⟨_, u, run.append run', stands', calls, eq' ▸ eq, rest⟩
  | collect _ ih =>
    obtain ⟨es, t, run, stands, rest⟩ := ih
    exact ⟨es, t, run, stands.collect, rest⟩

end Cascade.Worker.Loop
