import Cascade.Proofs.Site
import Cascade.Worker.Basic

/-!
# What a worker does next

Whatever a worker does is one of five things (`exists_moves_of_step`): it stops because it was told
to, receives a wake-up, turns to another wait or to taking the marks, takes them, or ends its pass.
`beginPass_eq` says what taking the marks leaves, and `starts_startWorker` what starting a worker
leaves.

`Holds.step` says that a worker whose passes leave marks and wake-ups alone never comes to a
component by itself: whatever is marked, woken for, or in a pass was handed to it.
-/

namespace Cascade.Worker

open Store

/-- A worker in such a phase waits for a wake-up. -/
inductive Phase.Idle : Phase → Prop
  | waiting (deadline : Nat) : Idle (.waiting deadline)
  | coalescing (deadline : Nat) : Idle (.coalescing deadline)

theorem Phase.Idle.not_passing {phase : Phase} (idle : phase.Idle) :
    ∀ deadline dirty outcome, phase ≠ .passing deadline dirty outcome := by
  rintro _ _ _ rfl
  cases idle

/-- Passes leave the marks and the queue alone. -/
structure Spares (engine : Engine) : Prop where
  marks (n time : Nat) (dirty : IdSet) (site : Site) :
    (engine n time dirty site).2.marks = site.marks
  queue (n time : Nat) (dirty : IdSet) (site : Site) :
    (engine n time dirty site).2.queue = site.queue

namespace State

/-- A wake-up that comes in a phase is followed by a wait for more up to a deadline. -/
inductive Opens (s : State) : Phase → Nat → Prop
  | first (deadline : Nat) : Opens s (.waiting deadline) (s.time + s.timing.debounce)
  /-- It does not put the end of the wait off. -/
  | more (deadline : Nat) : Opens s (.coalescing deadline) deadline

theorem Opens.idle {s : State} {phase : Phase} {deadline : Nat} (opens : s.Opens phase deadline) :
    phase.Idle := by
  cases opens with
  | first deadline => exact .waiting deadline
  | more => exact .coalescing deadline

/-- From one phase to another without anything else. -/
inductive Turns (s : State) : Phase → Phase → Prop
  | poll {deadline : Nat} (none : s.site.queue.items = []) (ended : deadline ≤ s.time) :
      Turns s (.waiting deadline) .polled
  /-- A wake-up came as the wait for it ended. -/
  | resume (woken : s.site.queue.items ≠ []) :
      Turns s .polled (.waiting (s.time + s.timing.idlePoll))
  | look (none : s.site.queue.items = []) : Turns s .polled .due
  | close {deadline : Nat} (none : s.site.queue.items = []) (ended : deadline ≤ s.time) :
      Turns s (.coalescing deadline) .due

theorem Turns.not_passing {s : State} {old new : Phase} (turns : s.Turns old new) :
    ∀ deadline dirty outcome, old ≠ .passing deadline dirty outcome := by
  rintro _ _ _ rfl
  cases turns

/-- What a worker may make of a state. -/
inductive Moves (engine : Engine) (s : State) (p : Process) : State → Prop
  | quit (idle : p.phase.Idle) (told : p.cancelled = true) : Moves engine s p (s.enter .finished)
  | receive {id : ComponentId} {queue : Queue} {deadline : Nat} (opens : s.Opens p.phase deadline)
      (next : s.site.queue.pop? = some (id, queue)) :
      Moves engine s p ((s.receive id queue).enter (.coalescing deadline))
  | turn {phase : Phase} (turns : s.Turns p.phase phase) : Moves engine s p (s.enter phase)
  | beginPass (due : p.phase = .due) : Moves engine s p (s.beginPass engine)
  | endPass {deadline : Nat} {dirty : IdSet} {outcome : Outcome}
      (passing : p.phase = .passing deadline dirty outcome) (ended : deadline ≤ s.time) :
      Moves engine s p (s.endPass dirty outcome)

variable {engine : Engine} {s t : State} {p : Process} {phase : Phase}

theorem enter_of_worker (worker : s.worker = some p) (same : p.phase = phase) :
    s.enter phase = s := by
  obtain ⟨_, _, _, _, _, _, _⟩ := s
  cases worker
  cases same
  rfl

theorem exists_moves_of_step (h : s.step engine = some t) :
    ∃ p, s.worker = some p ∧ s.Moves engine p t := by
  unfold step at h
  split at h
  · cases h
  · rename_i p worker
    refine ⟨p, worker, ?_⟩
    split at h
    · rename_i deadline phase
      split at h
      · cases h
        exact .quit (phase ▸ .waiting deadline) ‹_›
      · split at h
        · cases h
          exact .receive (phase ▸ .first deadline) ‹_›
        · rename_i none
          split at h
          · cases h
            exact .turn (phase ▸ .poll (Queue.pop?_eq_none_iff.1 none) ‹_›)
          · cases h
    · rename_i phase
      split at h
      · rename_i none
        cases h
        exact .turn (phase ▸ .look (List.isEmpty_iff.1 none))
      · rename_i woken
        cases h
        exact .turn (phase ▸ .resume (mt List.isEmpty_iff.2 woken))
    · rename_i deadline phase
      split at h
      · cases h
        exact .quit (phase ▸ .coalescing deadline) ‹_›
      · split at h
        · rename_i id queue next
          cases h
          -- the worker goes on with the wait that it is in
          rw [← enter_of_worker (s := s.receive id queue) worker phase]
          exact .receive (phase ▸ .more deadline) next
        · rename_i none
          split at h
          · cases h
            exact .turn (phase ▸ .close (Queue.pop?_eq_none_iff.1 none) ‹_›)
          · cases h
    · rename_i phase
      cases h
      exact .beginPass phase
    · rename_i phase
      split at h
      · cases h
        exact .endPass phase ‹_›
      · cases h
    · cases h
    · cases h

def drained (s : State) : Site := { s.site with marks := s.site.marks.drain.2 }

theorem beginPass_eq (engine : Engine) (s : State) :
    s.beginPass engine =
      if s.site.marks.ids.isEmpty then { s with site := s.drained }.await
      else
        let ran := engine s.passes.length s.time s.site.marks.ids s.drained
        { s with site := ran.2, passes := s.passes ++ [(s.time, s.site.marks.ids.keys)] }.enter
          (.passing (s.time + ran.1.1) s.site.marks.ids ran.1.2) := rfl

/-- What a worker does takes no time. -/
theorem same_of_step (h : s.step engine = some t) : t.time = s.time ∧ t.timing = s.timing := by
  obtain ⟨p, -, moves⟩ := exists_moves_of_step h
  cases moves with
  | quit => exact ⟨rfl, rfl⟩
  | receive => exact ⟨rfl, rfl⟩
  | turn => exact ⟨rfl, rfl⟩
  | beginPass =>
    rw [beginPass_eq]
    split
    · exact ⟨rfl, rfl⟩
    · exact ⟨rfl, rfl⟩
  | @endPass _ _ outcome =>
    cases outcome with
    | succeeded => exact ⟨rfl, rfl⟩
    | failed => exact ⟨rfl, rfl⟩
    | panicked => exact ⟨rfl, rfl⟩

/-- What starting a worker may make of a state. -/
inductive Starts (s : State) : State → Prop
  /-- A worker runs, or the last one still holds the queue. -/
  | same : Starts s s
  /-- The last worker broke down. -/
  | drop : Starts s { s with worker := none }
  | start (parked : Bool) : Starts s { s with
      parked
      running := true
      worker := some ⟨.waiting (s.time + s.timing.idlePoll), false⟩ }

theorem starts_startWorker (s : State) : s.Starts s.startWorker.2 := by
  unfold startWorker reclaim
  split
  · exact .same
  · split
    · rename_i refused
      split at refused
      · cases refused
      · split at refused
        · cases refused
          exact .same
        · split at refused
          · cases refused
          · cases refused
            exact .drop
          · cases refused
            exact .same
    · rename_i reclaimed
      split at reclaimed
      · cases reclaimed
        exact .start false
      · split at reclaimed
        · cases reclaimed
        · split at reclaimed
          · cases reclaimed
            exact .start s.parked
          · cases reclaimed
          · cases reclaimed

theorem site_startWorker (s : State) : s.startWorker.2.site = s.site := by
  have starts := s.starts_startWorker
  generalize s.startWorker.2 = t at starts ⊢
  cases starts with
  | same => rfl
  | drop => rfl
  | start parked => rfl

theorem site_collect (s : State) : s.collect.site = s.site := by
  unfold collect
  split
  · rfl
  · split
    · rfl
    · rfl
    · rfl

/-! ### The components that a worker has -/

/-- Every component that is marked, woken for or in a pass is of a kind. -/
structure Holds (Q : ComponentId → Prop) (s : State) : Prop where
  site : s.site.Holds Q
  pass {p : Process} {deadline : Nat} {dirty : IdSet} {outcome : Outcome} : s.worker = some p →
    p.phase = .passing deadline dirty outcome → ∀ c ∈ dirty, Q c

namespace Holds

variable {Q : ComponentId → Prop}

theorem enter (site : s.site.Holds Q) (pass : ∀ {deadline dirty outcome},
    phase = .passing deadline dirty outcome → ∀ c ∈ dirty, Q c) : (s.enter phase).Holds Q where
  site := site
  pass running passing := by
    obtain ⟨p, -, rfl⟩ := Option.map_eq_some_iff.1 running
    exact pass passing

theorem beginPass (h : s.Holds Q) (spares : Spares engine) : (s.beginPass engine).Holds Q := by
  have drained : s.drained.Holds Q := ⟨nofun, h.site.queue⟩
  rw [beginPass_eq]
  split
  · exact enter drained nofun
  · refine enter ⟨?_, ?_⟩ ?_
    · rw [spares.marks]
      exact drained.marks
    · rw [spares.queue]
      exact drained.queue
    · rintro _ _ _ ⟨⟩
      exact h.site.marks

theorem endPass {dirty : IdSet} (h : s.Holds Q) (taken : ∀ c ∈ dirty, Q c) (outcome : Outcome) :
    (s.endPass dirty outcome).Holds Q := by
  cases outcome with
  | succeeded => exact enter h.site nofun
  | failed =>
    exact enter (s := s.restore dirty) (h.site.markAll fun id mem ↦ taken id (IdMap.mem_keys.1 mem))
      nofun
  | panicked => exact enter ⟨h.site.marks, nofun⟩ nofun

theorem step (h : s.Holds Q) (spares : Spares engine) (step : s.step engine = some t) :
    t.Holds Q := by
  obtain ⟨p, worker, moves⟩ := exists_moves_of_step step
  cases moves with
  | quit => exact enter h.site nofun
  | @receive id queue deadline opens next =>
    have items := Queue.items_of_pop? next
    have rest : Site.Holds Q { s.site with queue } :=
      ⟨h.site.marks, fun c mem ↦ h.site.queue c (items ▸ List.mem_cons_of_mem _ mem)⟩
    have own : Q id := h.site.queue id (items ▸ List.mem_cons_self)
    exact enter (s := s.receive id queue) (rest.markIfOpen own) nofun
  | turn turns =>
    refine enter h.site ?_
    rintro _ _ _ rfl
    generalize p.phase = phase at turns
    cases turns
  | beginPass => exact h.beginPass spares
  | endPass passing => exact h.endPass (h.pass worker passing) _

theorem startWorker (h : s.Holds Q) : s.startWorker.2.Holds Q := by
  have starts := s.starts_startWorker
  generalize s.startWorker.2 = t at starts ⊢
  cases starts with
  | same => exact h
  | drop => exact ⟨h.site, nofun⟩
  | start parked =>
    refine ⟨h.site, fun running passing ↦ ?_⟩
    cases running
    cases passing

theorem requestStop (h : s.Holds Q) : s.requestStop.Holds Q where
  site := h.site
  pass running passing := by
    obtain ⟨p, worker, rfl⟩ := Option.map_eq_some_iff.1 running
    exact h.pass worker passing

theorem collect (h : s.Holds Q) : s.collect.Holds Q := by
  unfold State.collect
  split
  · exact h
  · split
    · exact ⟨h.site, nofun⟩
    · exact ⟨h.site, nofun⟩
    · exact h

end Holds

end State

end Cascade.Worker
