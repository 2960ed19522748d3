import Cascade.Proofs.Except
import Cascade.Proofs.Time.Timeline
import Cascade.Proofs.Worker.Cut
import Cascade.Proofs.Worker.Step
import Cascade.Worker.Schedule

/-!
# One pass for each burst

A worker that ends its wait for a first wake-up looks once more whether there is one, and then takes
the marks.  What is handed in between the two is late (`Submits`).  A worker has come so far with a
burst (`Meets`): it has yet to see it, has yet to take what was late, waits for the end of its span,
or is about to take it.

`passes_eq_bursts` says that a worker whose passes take no time and always succeed runs the passes
of the bursts and no others, whatever the order of what happens at one moment, however short its
waits for a first wake-up are, and whichever wake-ups find the queue full.  Where nothing is late
they are the greedy cut, and whatever is to be handed in can be handed in so that nothing is late.
`Tight.passes_ne_cut` shows the one pass more that there is where something is late.
-/

namespace Cascade.Worker

open Time

/-- Passes take no time, always succeed, and leave the marks and the queue alone. -/
structure Prompt (engine : Engine) : Prop extends Spares engine where
  ends (n time : Nat) (dirty : IdSet) (site : Site) : (engine n time dirty site).1 = (0, .succeeded)

/-- Such a phase goes on by itself. -/
inductive Phase.Going : Phase → Prop
  | waiting (deadline : Nat) : Going (.waiting deadline)
  | polled : Going .polled
  | coalescing (deadline : Nat) : Going (.coalescing deadline)
  | due : Going .due
  | passing (deadline : Nat) (dirty : IdSet) : Going (.passing deadline dirty .succeeded)

/-- In such a phase a worker looks for wake-ups, at once or when more come. -/
inductive Phase.Free (time : Nat) : Phase → Prop
  | waiting (deadline : Nat) : Free time (.waiting deadline)
  | polled : Free time .polled
  | passing {deadline : Nat} (dirty : IdSet) (ended : deadline ≤ time) :
      Free time (.passing deadline dirty .succeeded)

theorem Phase.Free.going {time : Nat} {phase : Phase} (free : phase.Free time) : phase.Going := by
  cases free with
  | waiting deadline => exact .waiting deadline
  | polled => exact .polled
  | passing dirty ended => exact .passing _ dirty

/-- How much a phase leaves to do at a time besides wake-ups. -/
def Phase.load (time : Nat) : Phase → Nat
  | .waiting deadline => if deadline ≤ time then 4 else 0
  | .polled => 3
  | .coalescing deadline => if deadline ≤ time then 3 else 0
  | .due => 2
  | .passing deadline _ _ => if deadline ≤ time then 1 else 0
  | _ => 0

theorem Phase.load_waiting {span : Nat} (ahead : 0 < span) (time : Nat) :
    (Phase.waiting (time + span)).load time = 0 :=
  if_neg (Nat.not_le.2 (Nat.lt_add_of_pos_right ahead))

theorem Phase.load_coalescing {span : Nat} (ahead : 0 < span) (time : Nat) :
    (Phase.coalescing (time + span)).load time = 0 :=
  if_neg (Nat.not_le.2 (Nat.lt_add_of_pos_right ahead))

namespace State

/-- Whether the worker is about to take the marks. -/
def isDue (s : State) : Bool := s.worker.any fun p ↦ match p.phase with
  | .due => true
  | _ => false

/-- A component is handed in, which is late if the worker is about to take the marks. -/
def Submits (a : Arrival) (s t : State) : Prop :=
  a.late = s.isDue ∧ ∃ site, s.site.submit a.id = .ok (a.woke, site) ∧ t = { s with site }

/-- A worker waits, and nothing is marked or woken for. -/
structure Fresh (s : State) : Prop where
  worker : ∃ deadline, s.worker = some ⟨.waiting deadline, false⟩
  marks : s.site.marks = .empty
  items : s.site.queue.items = []
  taken : s.site.queue.closed = false

/-- Hands components in at their times and lets time pass up to a moment. -/
def handIn (engine : Engine) (target : Nat) :
    List (Nat × ComponentId) → State → Except StoreError State
  | [], s => .ok ((timeline engine).advanceTo target s)
  | (time, id) :: later, s => do
    let s := (timeline engine).advanceTo time s
    let (_, site) ← s.site.submit id
    handIn engine target later { s with site }

section

variable {engine : Engine} {s t u : State} {id c : ComponentId} {phase : Phase} {a : Arrival}
  {pending later handed : List (Nat × Arrival)} {base begun : List (Nat × List ComponentId)}
  {debounce target : Nat}

/-! ## What was handed in and not taken yet -/

/-- What is marked or woken for is what is left of a burst, of which there is something. -/
structure Covers (s : State) (pending : List (Nat × Arrival)) : Prop where
  mem_iff : ∀ c, c ∈ s.site.marks.ids ∨ c ∈ s.site.queue.items ↔ c ∈ remaining (pending.map (·.2))
  left : pending ≠ [] → remaining (pending.map (·.2)) ≠ []

/-- How far a worker has come with a burst that began after some passes. -/
inductive Meets (s : State) (base : List (Nat × List ComponentId)) :
    List (Nat × Arrival) → Phase → Prop
  /-- It was handed in just now, and there is a wake-up, or nothing was handed in. -/
  | free {pending : List (Nat × Arrival)} {phase : Phase} (free : phase.Free s.time)
      (now : ∀ e ∈ pending, e.1 = s.time) (covers : s.Covers pending)
      (woken : pending ≠ [] → s.site.queue.items ≠ [])
      (passes : s.passes = base ++ earlyPass s.time (pending.map (·.2))) :
      Meets s base pending phase
  /-- It was handed in just now, all of it late. -/
  | race {pending : List (Nat × Arrival)} (now : ∀ e ∈ pending, e.1 = s.time)
      (marks : ∀ c, c ∈ s.site.marks.ids ↔ c ∈ raced (pending.map (·.2)))
      (items : ∀ c, c ∈ s.site.queue.items ↔ c ∈ remaining (pending.map (·.2)))
      (woken : pending ≠ [] → s.site.queue.items ≠ [])
      (passes : s.passes = base) : Meets s base pending .due
  /-- Its span is not over. -/
  | span {start : Nat} {a : Arrival} {rest : List (Nat × Arrival)} (begun : start ≤ s.time)
      (lasts : s.time ≤ start + s.timing.debounce)
      (inside : ∀ e ∈ rest, e.1 < start + s.timing.debounce)
      (covers : s.Covers ((start, a) :: rest))
      (passes : s.passes = base ++ earlyPass start (((start, a) :: rest).map (·.2))) :
      Meets s base ((start, a) :: rest) (.coalescing (start + s.timing.debounce))
  /-- Its span is over. -/
  | ended {start : Nat} {a : Arrival} {rest : List (Nat × Arrival)}
      (now : s.time = start + s.timing.debounce)
      (inside : ∀ e ∈ rest, e.1 < start + s.timing.debounce)
      (covers : s.Covers ((start, a) :: rest))
      (none : s.site.queue.items = [])
      (passes : s.passes = base ++ earlyPass start (((start, a) :: rest).map (·.2))) :
      Meets s base ((start, a) :: rest) .due

/-- A worker that runs and has come so far with a burst. -/
structure Handles (s : State) (base : List (Nat × List ComponentId))
    (pending : List (Nat × Arrival)) : Prop where
  worker : ∃ phase, s.worker = some ⟨phase, false⟩ ∧ Meets s base pending phase
  marked : s.site.marks.closed = false
  taken : s.site.queue.closed = false

theorem Fresh.handles (fresh : s.Fresh) : s.Handles s.passes [] where
  worker := by
    obtain ⟨deadline, worker⟩ := fresh.worker
    refine ⟨_, worker, .free (.waiting deadline) nofun ⟨fun c ↦ ?_, nofun⟩ nofun ?_⟩
    · rw [fresh.marks, fresh.items]
      exact ⟨by rintro (⟨⟨⟩⟩ | ⟨⟨⟩⟩), nofun⟩
    · exact (List.append_nil _).symm
  marked := by rw [fresh.marks]; rfl
  taken := fresh.taken

/-- A wake-up that is pushed onto an open queue leaves one there. -/
theorem items_push_ne_nil {q : Queue} (taken : q.closed = false) (id : ComponentId) :
    (q.push id).2.items ≠ [] := by
  unfold Queue.push
  rw [if_neg (Bool.eq_false_iff.1 taken)]
  split
  · exact List.append_ne_nil_of_right_ne_nil _ (List.cons_ne_nil _ _)
  · rename_i full
    intro none
    rw [none] at full
    exact full q.capacity_pos

theorem isDue_eq (worker : s.worker = some ⟨phase, false⟩) : s.isDue = true ↔ phase = .due := by
  rw [isDue, worker, Option.any_some]
  cases phase <;> simp

def submitted (id : ComponentId) (s : State) : State := { s with
  site := { s.site with
    marks := { s.site.marks with ids := s.site.marks.ids.add id }
    queue := (s.site.queue.push id).2 } }

theorem submits_iff : Submits a s t ↔ a.late = s.isDue ∧ s.site.marks.closed = false ∧
    (s.site.queue.push a.id).1 = a.woke ∧ t = s.submitted a.id := by
  refine and_congr_right fun _ ↦ ?_
  constructor
  · rintro ⟨site, handed, rfl⟩
    obtain ⟨site', marked, woken⟩ := exists_of_map_eq_ok handed
    obtain ⟨taken, rfl⟩ := Site.mark_eq_ok_iff.1 marked
    obtain ⟨woke, rfl⟩ := Prod.mk.inj woken
    exact ⟨taken, woke, rfl⟩
  · rintro ⟨taken, woke, rfl⟩
    have marked : s.site.mark a.id = .ok _ := Site.mark_eq_ok_iff.2 ⟨taken, rfl⟩
    refine ⟨_, ?_, rfl⟩
    rw [Site.submit, marked, ← woke]
    rfl

theorem mem_marks_submitted : c ∈ (s.submitted id).site.marks.ids ↔ id = c ∨ c ∈ s.site.marks.ids :=
  IdMap.mem_add

theorem mem_items_submitted : c ∈ (s.submitted id).site.queue.items ↔
    c ∈ s.site.queue.items ∨ (id = c ∧ (s.site.queue.push id).1 = true) :=
  Queue.mem_push

/-- What is handed in before the marks are about to be taken is left for later. -/
theorem Covers.submitted (covers : s.Covers pending) (punctual : a.late = false) (time : Nat) :
    (s.submitted a.id).Covers (pending ++ [(time, a)]) := by
  have more : remaining ((pending ++ [(time, a)]).map (·.2)) =
      remaining (pending.map (·.2)) ++ [a.id] := by
    rw [List.map_append, List.map_singleton, remaining_concat, punctual]
    rfl
  refine ⟨fun c ↦ ?_, fun _ ↦ ?_⟩
  · rw [more, List.mem_append, List.mem_singleton, ← covers.mem_iff, mem_marks_submitted,
      mem_items_submitted]
    tauto
  · rw [more]
    exact List.append_ne_nil_of_right_ne_nil _ (List.cons_ne_nil _ _)

/-- What is handed in at a moment that is not the end of a span joins the burst. -/
theorem Handles.submit (handles : s.Handles base pending)
    (clear : ∀ e rest, pending = e :: rest → s.time ≠ e.1 + s.timing.debounce)
    (submits : Submits a s t) :
    t.Handles base (pending ++ [(s.time, a)]) ∧ t.time = s.time ∧ t.timing = s.timing := by
  obtain ⟨late, -, woke, rfl⟩ := submits_iff.1 submits
  obtain ⟨phase, worker, meets⟩ := handles.worker
  have due := isDue_eq worker
  have punctual (other : phase ≠ .due) : a.late = false := by
    rw [late, Bool.eq_false_iff, ne_eq, due]
    exact other
  have items : (s.submitted a.id).site.queue.items ≠ [] := items_push_ne_nil handles.taken a.id
  refine ⟨⟨⟨phase, worker, ?_⟩, handles.marked, Queue.closed_push.trans handles.taken⟩, rfl, rfl⟩
  cases meets with
  | free free now covers woken passes =>
    have punctual := punctual (by rintro rfl; cases free)
    refine .free free ?_ (covers.submitted punctual _) (fun _ ↦ items) ?_
    · simpa [submitted, or_imp, forall_and] using now
    · rw [List.map_append, List.map_singleton, earlyPass_concat punctual]
      exact passes
  | race now marks items' woken passes =>
    have late : a.late = true := late.trans (due.2 rfl)
    have more : raced ((pending ++ [(s.time, a)]).map (·.2)) =
        raced (pending.map (·.2)) ++ [a.id] := by
      rw [List.map_append, List.map_singleton, raced_concat, late]
      rfl
    refine .race ?_ (fun c ↦ ?_) (fun c ↦ ?_) (fun _ ↦ items) passes
    · simpa [submitted, or_imp, forall_and] using now
    · rw [more, List.mem_append, List.mem_singleton, ← marks, mem_marks_submitted]
      tauto
    · rw [List.map_append, List.map_singleton, remaining_concat, late, List.mem_append, ← items',
        mem_items_submitted, woke]
      cases a.woke <;> simp [eq_comm]
  | span begun lasts inside covers passes =>
    have punctual := punctual nofun
    have before := Nat.lt_of_le_of_ne lasts (clear _ _ rfl)
    rw [List.cons_append]
    refine .span begun lasts ?_ (covers.submitted punctual _) ?_
    · simpa [submitted, or_imp, forall_and, before] using inside
    · rw [← List.cons_append, List.map_append, List.map_singleton, earlyPass_concat punctual]
      exact passes
  | ended now => exact absurd now (clear _ _ rfl)

/-! ## What a worker does about it -/

theorem handles_enter {old : Phase} (worker : s.worker = some ⟨old, false⟩)
    (marked : s.site.marks.closed = false) (taken : s.site.queue.closed = false)
    (meets : Meets s base pending phase) : (s.enter phase).Handles base pending where
  worker := by
    refine ⟨phase, by rw [State.enter, worker]; rfl, ?_⟩
    cases meets with
    | free free now covers woken passes =>
      exact .free free now ⟨covers.mem_iff, covers.left⟩ woken passes
    | race now marks items woken passes => exact .race now marks items woken passes
    | span begun lasts inside covers passes =>
      exact .span begun lasts inside ⟨covers.mem_iff, covers.left⟩ passes
    | ended now inside covers none passes =>
      exact .ended now inside ⟨covers.mem_iff, covers.left⟩ none passes
  marked := marked
  taken := taken

theorem Handles.enter (handles : s.Handles base pending) (meets : Meets s base pending phase) :
    (s.enter phase).Handles base pending := by
  obtain ⟨old, worker, -⟩ := handles.worker
  exact handles_enter worker handles.marked handles.taken meets

theorem receive_eq (marked : s.site.marks.closed = false) (id : ComponentId) (q : Queue) :
    s.receive id q = { s with site := { s.site with
      marks := { s.site.marks with ids := s.site.marks.ids.add id }
      queue := q } } := by
  rw [receive, Site.markIfOpen_eq, if_neg (Bool.eq_false_iff.1 marked)]

theorem Covers.receive {q : Queue} (covers : s.Covers pending)
    (marked : s.site.marks.closed = false) (next : s.site.queue.pop? = some (id, q)) :
    (s.receive id q).Covers pending := by
  refine ⟨fun c ↦ ?_, covers.left⟩
  rw [receive_eq marked, ← covers.mem_iff, Queue.items_of_pop? next, List.mem_cons]
  refine (or_congr_left IdMap.mem_add).trans ?_
  tauto

/-- A wake-up opens a span, or is one of those that come during it. -/
theorem Handles.absorb {q : Queue} {start : Nat} {rest : List (Nat × Arrival)}
    (handles : s.Handles base ((start, a) :: rest)) (next : s.site.queue.pop? = some (id, q))
    (begun : start ≤ s.time) (lasts : s.time ≤ start + s.timing.debounce)
    (inside : ∀ e ∈ rest, e.1 < start + s.timing.debounce) (covers : s.Covers ((start, a) :: rest))
    (passes : s.passes = base ++ earlyPass start (((start, a) :: rest).map (·.2))) :
    ((s.receive id q).enter (.coalescing (start + s.timing.debounce))).Handles base
      ((start, a) :: rest) := by
  obtain ⟨old, worker, -⟩ := handles.worker
  refine handles_enter (s := s.receive id q) worker ?_
    ((Queue.closed_of_pop? next).trans handles.taken)
    (.span begun lasts inside (covers.receive handles.marked next) passes)
  rw [receive_eq handles.marked]
  exact handles.marked

/-- What taking the marks leaves. -/
structure Takes (s t : State) : Prop where
  worker : ∃ phase, t.worker = some ⟨phase, false⟩ ∧ phase.Free s.time ∧
    (0 < s.timing.idlePoll → phase.load s.time ≤ 1)
  same : t.time = s.time ∧ t.timing = s.timing
  marks : t.site.marks = ⟨∅, s.site.marks.closed⟩
  queue : t.site.queue = s.site.queue
  passes : t.passes = s.passes ++
    if s.site.marks.ids.isEmpty then [] else [(s.time, s.site.marks.ids.keys)]

theorem takes_beginPass (prompt : Prompt engine) (worker : s.worker = some ⟨phase, false⟩) :
    s.Takes (s.beginPass engine) := by
  rw [beginPass_eq]
  split
  · rename_i none
    refine ⟨⟨.waiting (s.time + s.timing.idlePoll), ?_, .waiting _, fun ahead ↦ ?_⟩, ⟨rfl, rfl⟩,
      rfl, rfl, ?_⟩
    · rw [await, enter, worker]
      rfl
    · exact Phase.load_waiting ahead _ ▸ Nat.zero_le 1
    · rw [if_pos none, List.append_nil]
      rfl
  · rename_i some
    refine ⟨⟨.passing s.time s.site.marks.ids .succeeded, ?_, .passing _ (Nat.le_refl _),
      fun _ ↦ ?_⟩, ⟨rfl, rfl⟩, ?_, ?_, ?_⟩
    · simp only [prompt.ends, enter, worker, Nat.add_zero, Option.map_some]
    · exact Nat.le_of_eq (if_pos (Nat.le_refl _))
    · exact (prompt.marks ..)
    · exact (prompt.queue ..)
    · rw [if_neg some]
      rfl

/-- What a worker does next leaves it with the same burst, or is the pass that ends the burst. -/
inductive Serves (s t : State) (base : List (Nat × List ComponentId))
    (pending : List (Nat × Arrival)) : Prop
  | on (handles : t.Handles base pending)
  | pass {start : Nat} {a : Arrival} {rest : List (Nat × Arrival)}
      (here : pending = (start, a) :: rest) (ended : s.time = start + s.timing.debounce)
      (inside : ∀ e ∈ rest, e.1 < start + s.timing.debounce)
      (handles : t.Handles (base ++ passesOf s.timing.debounce (start, pending.map (·.2))) [])

/-- After that there is what the wake-ups are left of. -/
theorem Takes.handles (takes : s.Takes t) (handles : s.Handles base later)
    (now : ∀ e ∈ pending, e.1 = s.time)
    (items : ∀ c, c ∈ s.site.queue.items ↔ c ∈ remaining (pending.map (·.2)))
    (woken : pending ≠ [] → s.site.queue.items ≠ [])
    (passes : t.passes = begun ++ earlyPass s.time (pending.map (·.2))) :
    t.Handles begun pending := by
  obtain ⟨phase, worker, free, -⟩ := takes.worker
  refine ⟨⟨phase, worker, ?_⟩, ?_, ?_⟩
  · rw [← takes.same.1] at free now passes
    rw [← takes.queue] at items woken
    refine .free free now ⟨fun c ↦ ?_, fun some none ↦ ?_⟩ woken passes
    · rw [← items, takes.marks, or_iff_right]
      rintro ⟨⟩
    · obtain ⟨c, mem⟩ := List.exists_mem_of_ne_nil _ (woken some)
      exact List.not_mem_nil (none ▸ (items c).1 mem)
  · rw [takes.marks]
    exact handles.marked
  · rw [takes.queue]
    exact handles.taken

theorem Handles.beginPass (handles : s.Handles base pending) (takes : s.Takes t)
    (meets : Meets s base pending .due) : s.Serves t base pending := by
  have passes := takes.passes
  cases meets with
  | free free => cases free
  | race now marks items woken passes' =>
    have ids : s.site.marks.ids = IdMap.setOf (raced (pending.map (·.2))) :=
      IdMap.ext_mem fun c ↦ (marks c).trans IdMap.mem_setOf.symm
    rw [ids, IdMap.isEmpty_setOf, passes', ← earlyPass] at passes
    exact .on (takes.handles handles now items woken passes)
  | @ended start a rest now inside covers none passes' =>
    have ids : s.site.marks.ids = IdMap.setOf (remaining (((start, a) :: rest).map (·.2))) := by
      refine IdMap.ext_mem fun c ↦ ?_
      rw [IdMap.mem_setOf, ← covers.mem_iff, none, or_iff_left List.not_mem_nil]
    have left := covers.left (List.cons_ne_nil _ _)
    rw [ids, IdMap.isEmpty_setOf, if_neg (mt List.isEmpty_iff.1 left), passes', List.append_assoc,
      now, ← passesOf] at passes
    refine .pass rfl now inside (takes.handles handles (List.forall_mem_nil _) (fun c ↦ ?_)
      (absurd rfl) (passes.trans (List.append_nil _).symm))
    rw [none]
    exact Iff.rfl

theorem Handles.receive {q : Queue} {deadline : Nat} (handles : s.Handles base pending)
    (meets : Meets s base pending phase) (opens : s.Opens phase deadline)
    (next : s.site.queue.pop? = some (id, q)) (debounce : 0 < s.timing.debounce) :
    ((s.receive id q).enter (.coalescing deadline)).Handles base pending := by
  cases opens with
  | first =>
    cases meets with
    | free free now covers woken passes =>
      have some : pending ≠ [] := by
        rintro rfl
        cases (covers.mem_iff id).1 (.inr (Queue.items_of_pop? next ▸ List.mem_cons_self))
      obtain ⟨⟨start, a⟩, rest, rfl⟩ := List.exists_cons_of_ne_nil some
      obtain ⟨rfl, others⟩ := List.forall_mem_cons.1 now
      refine handles.absorb next (Nat.le_refl _) (Nat.le_add_right _ _) (fun e mem ↦ ?_) covers
        passes
      rw [others e mem]
      exact Nat.lt_add_of_pos_right debounce
  | more =>
    cases meets with
    | free free => cases free
    | span begun lasts inside covers passes =>
      exact handles.absorb next begun lasts inside covers passes

theorem Handles.turn {new : Phase} (handles : s.Handles base pending)
    (meets : Meets s base pending phase) (turns : s.Turns phase new) :
    (s.enter new).Handles base pending := by
  refine handles.enter ?_
  cases turns with
  | poll =>
    cases meets with
    | free free now covers woken passes => exact .free .polled now covers woken passes
  | resume =>
    cases meets with
    | free free now covers woken passes => exact .free (.waiting _) now covers woken passes
  | look none =>
    cases meets with
    | free free now covers woken passes =>
      obtain rfl : pending = [] := by
        by_contra some
        exact woken some none
      refine .race nofun (fun c ↦ ?_) (fun c ↦ ?_) nofun ?_
      · exact (or_iff_left (none ▸ List.not_mem_nil)).symm.trans (covers.mem_iff c)
      · rw [none]
        exact Iff.rfl
      · exact passes.trans (List.append_nil _)
  | close none ended =>
    cases meets with
    | free free => cases free
    | span begun lasts inside covers passes =>
      exact .ended (Nat.le_antisymm lasts ended) inside covers none passes

theorem Handles.step (handles : s.Handles base pending) (prompt : Prompt engine)
    (debounce : 0 < s.timing.debounce) (next : s.step engine = some t) :
    s.Serves t base pending := by
  obtain ⟨phase, worker, meets⟩ := handles.worker
  obtain ⟨p, running, moves⟩ := exists_moves_of_step next
  cases worker.symm.trans running
  cases moves with
  | quit idle told => cases told
  | receive opens popped => exact .on (handles.receive meets opens popped debounce)
  | turn turns => exact .on (handles.turn meets turns)
  | beginPass due =>
    cases due
    exact handles.beginPass (takes_beginPass prompt worker) meets
  | endPass passing =>
    cases passing
    cases meets with
    | free free now covers woken passes =>
      cases free
      exact .on (handles.enter (.free (.waiting _) now covers woken passes))

/-- A worker that has nothing to do waits, up to a time. -/
theorem step_eq_none_iff (worker : s.worker = some ⟨phase, false⟩) (going : phase.Going) :
    s.step engine = none ↔
      (phase.Idle → s.site.queue.items = []) ∧ ∃ d, s.due = some d ∧ s.time < d := by
  have due : s.due = phase.deadline? := by
    rw [State.due, worker]
    rfl
  rw [due, ← Queue.pop?_eq_none_iff]
  cases going with
  | waiting deadline =>
    have idle : (Phase.waiting deadline).Idle := .waiting deadline
    cases popped : s.site.queue.pop? <;>
      simp [State.step, worker, popped, idle, Phase.deadline?]
  | polled => simp [State.step, worker, Phase.deadline?]
  | coalescing deadline =>
    have idle : (Phase.coalescing deadline).Idle := .coalescing deadline
    cases popped : s.site.queue.pop? <;>
      simp [State.step, worker, popped, idle, Phase.deadline?]
  | due => simp [State.step, worker, Phase.deadline?]
  | passing deadline dirty =>
    have busy : ¬ (Phase.passing deadline dirty .succeeded).Idle := nofun
    simp [State.step, worker, busy, Phase.deadline?]

theorem Meets.going (meets : Meets s base pending phase) : phase.Going := by
  cases meets with
  | free free => exact free.going
  | race => exact .due
  | span => exact .coalescing _
  | ended => exact .due

/-- What is left of a burst when there is nothing to do. -/
inductive Rests (s : State) (base : List (Nat × List ComponentId)) : List (Nat × Arrival) → Prop
  | idle {deadline : Nat} (worker : s.worker = some ⟨.waiting deadline, false⟩)
      (covers : s.Covers []) (passes : s.passes = base) : Rests s base []
  | span {start : Nat} {a : Arrival} {rest : List (Nat × Arrival)}
      (worker : s.worker = some ⟨.coalescing (start + s.timing.debounce), false⟩)
      (begun : start ≤ s.time) (lasts : s.time < start + s.timing.debounce)
      (inside : ∀ e ∈ rest, e.1 < start + s.timing.debounce)
      (covers : s.Covers ((start, a) :: rest))
      (passes : s.passes = base ++ earlyPass start (((start, a) :: rest).map (·.2))) :
      Rests s base ((start, a) :: rest)

theorem Handles.rests (handles : s.Handles base pending) (done : s.step engine = none) :
    s.Rests base pending := by
  obtain ⟨phase, worker, meets⟩ := handles.worker
  obtain ⟨items, d, due, early⟩ := (step_eq_none_iff worker meets.going).1 done
  rw [State.due, worker, Option.bind_some] at due
  cases meets with
  | @free pending phase free now covers woken passes =>
    cases free with
    | waiting deadline =>
      obtain rfl : pending = [] := by
        by_contra some
        exact woken some (items (.waiting deadline))
      exact .idle worker covers (passes.trans (List.append_nil _))
    | polled => cases due
    | passing dirty ended =>
      cases due
      exact absurd ended (Nat.not_le.2 early)
  | race => cases due
  | span begun lasts inside covers passes =>
    cases due
    exact .span worker begun early inside covers passes
  | ended => cases due

/-- While there is nothing to do, time may go on up to the end of the wait. -/
theorem Handles.wait {n : Nat} (handles : s.Handles base pending) (done : s.step engine = none)
    (late : s.time ≤ n) (early : ∀ d, s.due = some d → n ≤ d) :
    ({ s with time := n } : State).Handles base pending := by
  refine ⟨?_, handles.marked, handles.taken⟩
  cases handles.rests done with
  | idle worker covers passes =>
    exact ⟨_, worker, .free (.waiting _) nofun ⟨covers.mem_iff, covers.left⟩ nofun
      (passes.trans (List.append_nil _).symm)⟩
  | span worker begun lasts inside covers passes =>
    refine ⟨_, worker, .span (Nat.le_trans begun late) (early _ ?_) inside
      ⟨covers.mem_iff, covers.left⟩ passes⟩
    rw [State.due, worker]
    rfl

/-- At rest there were the passes whose time has come. -/
theorem Rests.passes_eq (rests : s.Rests base pending) : s.passes = base ++
    ((bursts s.timing.debounce pending).flatMap (passesOf s.timing.debounce)).filter
      (·.1 ≤ s.time) := by
  cases rests with
  | idle worker covers passes =>
    rw [bursts, List.flatMap_nil, List.filter_nil, passes, List.append_nil]
  | @span start a rest worker begun lasts inside covers passes =>
    have only := bursts_append a inside [] (List.forall_mem_nil _)
    rw [List.append_nil, bursts] at only
    rw [only, List.flatMap_singleton, passesOf, List.filter_append, passes]
    rw [List.filter_eq_self.2, List.filter_eq_nil_iff.2, List.append_nil]
    · simpa using lasts
    · intro pass mem
      simpa [time_of_mem_earlyPass pass mem] using begun

/-! ## The passes of a course -/

theorem timely_timeline (engine : Engine) : (timeline engine).Timely Submits where
  moveTo _ _ := rfl
  step next := (same_of_step next).1
  act := by
    rintro _ _ _ ⟨_, _, _, rfl⟩
    rfl

/-- At rest a worker has run the passes whose time has come. -/
theorem passes_of_unfolds (prompt : Prompt engine) (debounce : 0 < s.timing.debounce)
    (unfolds : (timeline engine).Unfolds Submits s later u) (handles : s.Handles base pending)
    (clear : Clear s.timing.debounce (pending ++ later)) (done : u.step engine = none) :
    u.passes = base ++ ((bursts s.timing.debounce (pending ++ later)).flatMap
      (passesOf s.timing.debounce)).filter (·.1 ≤ u.time) := by
  induction unfolds generalizing base pending with
  | nil s => rw [List.append_nil, ← (handles.rests done).passes_eq]
  | @act s t u a later submits unfolds ih =>
    have inside : ∀ e rest, pending = e :: rest → s.time ≠ e.1 + s.timing.debounce := by
      rintro ⟨start, first⟩ rest rfl
      rw [List.cons_append, Clear, bursts] at clear
      exact clear _ List.mem_cons_self _ (List.mem_cons_of_mem _ (List.mem_append_right _
        List.mem_cons_self))
    obtain ⟨handles, time, timing⟩ := handles.submit inside submits
    rw [List.append_cons] at clear ⊢
    rw [← timing] at clear debounce ⊢
    exact ih debounce handles clear done
  | @step s t u later next unfolds ih =>
    obtain ⟨time, timing⟩ := same_of_step next
    cases handles.step prompt debounce next with
    | on handles =>
      rw [← timing] at clear debounce ⊢
      exact ih debounce handles clear done
    | @pass start a rest here ended inside after =>
      subst here
      obtain ⟨late, beyond⟩ := (timely_timeline engine).within unfolds
      have beyond : ∀ e ∈ later, start + s.timing.debounce ≤ e.1 := fun e mem ↦
        ended ▸ time ▸ beyond e mem
      have late : start + s.timing.debounce ≤ u.time := ended ▸ time ▸ late
      have clear' := clear.of_append inside beyond
      rw [filter_passesOf_append a inside beyond late, ← List.append_assoc]
      rw [← timing] at clear' debounce after ⊢
      exact ih debounce after clear' done
  | @wait s u n later rest late early unfolds ih =>
    exact ih debounce (handles.wait rest late early) clear done

/-! ## A worker as it runs -/

/-- A worker runs that has not been told to stop, and marks are taken. -/
structure Runs (s : State) : Prop where
  worker : ∃ phase, s.worker = some ⟨phase, false⟩ ∧ phase.Going
  debounce : 0 < s.timing.debounce
  idlePoll : 0 < s.timing.idlePoll
  taken : s.site.marks.closed = false

/-- How much there is to do for a worker before time goes on. -/
def load (s : State) : Nat :=
  s.site.queue.items.length + s.worker.elim 0 fun w ↦ w.phase.load s.time

theorem Runs.enter (runs : s.Runs) (going : phase.Going) : (s.enter phase).Runs where
  worker := by
    obtain ⟨old, worker, -⟩ := runs.worker
    exact ⟨phase, by rw [State.enter, worker]; rfl, going⟩
  debounce := runs.debounce
  idlePoll := runs.idlePoll
  taken := runs.taken

theorem load_eq (worker : s.worker = some ⟨phase, false⟩) :
    s.load = s.site.queue.items.length + phase.load s.time := by
  rw [load, worker]
  rfl

theorem Runs.load_enter (runs : s.Runs) :
    (s.enter phase).load = s.site.queue.items.length + phase.load s.time := by
  obtain ⟨old, worker, -⟩ := runs.worker
  exact load_eq (s := s.enter phase) (by rw [State.enter, worker]; rfl)

/-- Waiting again leaves nothing to do but wake-ups. -/
theorem Runs.await (runs : s.Runs) : s.await.Runs ∧ s.await.load = s.site.queue.items.length := by
  refine ⟨runs.enter (.waiting _), ?_⟩
  rw [State.await, runs.load_enter, Phase.load_waiting runs.idlePoll, Nat.add_zero]

theorem Runs.receive {q : Queue} (runs : s.Runs) (next : s.site.queue.pop? = some (id, q))
    (going : phase.Going) : ((s.receive id q).enter phase).Runs ∧
      ((s.receive id q).enter phase).load + 1 = s.site.queue.items.length + phase.load s.time := by
  have received : (s.receive id q).Runs := by
    refine ⟨runs.worker, runs.debounce, runs.idlePoll, ?_⟩
    rw [receive_eq runs.taken]
    exact runs.taken
  refine ⟨received.enter going, ?_⟩
  rw [received.load_enter, receive_eq runs.taken, Queue.items_of_pop? next, List.length_cons]
  exact Nat.add_right_comm _ _ _

theorem Runs.beginPass (runs : s.Runs) (prompt : Prompt engine)
    (worker : s.worker = some ⟨phase, false⟩) :
    (s.beginPass engine).Runs ∧ (s.beginPass engine).load ≤ s.site.queue.items.length + 1 := by
  have takes := takes_beginPass prompt worker
  obtain ⟨phase, worker, free, few⟩ := takes.worker
  obtain ⟨time, timing⟩ := takes.same
  refine ⟨⟨⟨phase, worker, free.going⟩, timing ▸ runs.debounce, timing ▸ runs.idlePoll, ?_⟩, ?_⟩
  · rw [takes.marks]
    exact runs.taken
  · rw [load_eq worker, takes.queue, time]
    exact Nat.add_le_add_left (few runs.idlePoll) _

theorem Runs.turn {new : Phase} (runs : s.Runs) (turns : s.Turns phase new) :
    (s.enter new).Runs ∧
      (s.enter new).load < s.site.queue.items.length + phase.load s.time := by
  rw [runs.load_enter]
  cases turns with
  | poll none ended => exact ⟨runs.enter .polled, by simp [Phase.load, ended]⟩
  | resume =>
    refine ⟨runs.enter (.waiting _), ?_⟩
    rw [Phase.load_waiting runs.idlePoll]
    simp [Phase.load]
  | look => exact ⟨runs.enter .due, by simp [Phase.load]⟩
  | close none ended => exact ⟨runs.enter .due, by simp [Phase.load, ended]⟩

theorem Runs.step (runs : s.Runs) (prompt : Prompt engine) (next : s.step engine = some t) :
    t.Runs ∧ t.load < s.load := by
  obtain ⟨phase, worker, going⟩ := runs.worker
  obtain ⟨p, running, moves⟩ := exists_moves_of_step next
  cases worker.symm.trans running
  rw [load_eq worker]
  cases moves with
  | quit idle told => cases told
  | @receive id q deadline opens popped =>
    obtain ⟨after, load⟩ := runs.receive popped (.coalescing deadline)
    have less : (Phase.coalescing deadline).load s.time ≤ phase.load s.time := by
      cases opens with
      | first => exact Phase.load_coalescing runs.debounce _ ▸ Nat.zero_le _
      | more => exact Nat.le_refl _
    exact ⟨after, by omega⟩
  | turn turns => exact runs.turn turns
  | beginPass due =>
    cases due
    obtain ⟨after, load⟩ := runs.beginPass prompt worker
    rw [Phase.load]
    exact ⟨after, by omega⟩
  | @endPass deadline dirty outcome passing ended =>
    cases passing
    cases going
    obtain ⟨after, load⟩ := runs.await
    rw [Phase.load, if_pos ended]
    exact ⟨after, by rw [State.endPass, load]; omega⟩

theorem steady_timeline (prompt : Prompt engine) : (timeline engine).Steady Runs load where
  now _ _ := rfl
  step runs next := by
    obtain ⟨after, less⟩ := runs.step prompt next
    exact ⟨after, (same_of_step next).1, less⟩
  bound := by
    intro s runs
    obtain ⟨phase, worker, going⟩ := runs.worker
    have room := s.site.queue.items_le
    have few : phase.load s.time ≤ 4 := by
      unfold Phase.load
      split <;> first | split <;> omega | omega
    rw [load_eq worker]
    show _ ≤ 2 * s.site.queue.capacity + 16
    omega
  wait n runs := ⟨runs.worker, runs.debounce, runs.idlePoll, runs.taken⟩
  ahead := by
    intro s d runs done due
    obtain ⟨phase, worker, going⟩ := runs.worker
    obtain ⟨-, d', due', early⟩ := (step_eq_none_iff worker going).1 done
    cases due.symm.trans due'
    exact early
  still := by
    intro s n runs done early
    obtain ⟨phase, worker, going⟩ := runs.worker
    obtain ⟨items, d, due, -⟩ := (step_eq_none_iff worker going).1 done
    exact (step_eq_none_iff (s := { s with time := n }) worker going).2 ⟨items, d, due, early d due⟩

theorem Fresh.runs (fresh : s.Fresh) (debounce : 0 < s.timing.debounce)
    (idlePoll : 0 < s.timing.idlePoll) : s.Runs where
  worker := by
    obtain ⟨deadline, worker⟩ := fresh.worker
    exact ⟨_, worker, .waiting deadline⟩
  debounce := debounce
  idlePoll := idlePoll
  taken := by rw [fresh.marks]; rfl

/-- A worker that runs takes whatever is handed in, and what comes when it has nothing to do is not
late. -/
theorem Runs.exists_submit (runs : s.Runs) (id : ComponentId) (done : s.step engine = none) :
    ∃ room site, s.site.submit id = .ok (room, site) ∧ State.Runs { s with site } ∧
      Submits ⟨id, false, room⟩ s { s with site } := by
  have marked : s.site.mark id = .ok _ := Site.mark_eq_ok_iff.2 ⟨runs.taken, rfl⟩
  have submitted := congrArg (Except.map (Site.wake id)) marked
  have punctual : false = s.isDue := by
    obtain ⟨phase, worker, going⟩ := runs.worker
    symm
    rw [Bool.eq_false_iff, ne_eq, isDue_eq worker]
    rintro rfl
    obtain ⟨-, d, due, -⟩ := (step_eq_none_iff worker going).1 done
    rw [State.due, worker] at due
    cases due
  exact ⟨_, _, submitted, ⟨runs.worker, runs.debounce, runs.idlePoll, runs.taken⟩, punctual, _,
    submitted, rfl⟩

/-- Components can be handed in at any times that do not go back, and none of them late. -/
theorem exists_handIn {planned : List (Nat × ComponentId)} (prompt : Prompt engine) (runs : s.Runs)
    (sorted : planned.Pairwise (·.1 ≤ ·.1)) (start : s.time ≤ target)
    (times : ∀ e ∈ planned, s.time ≤ e.1 ∧ e.1 ≤ target) :
    ∃ handed u, handIn engine target planned s = .ok u ∧
      (timeline engine).Unfolds Submits s handed u ∧ schedule handed = planned ∧
      (∀ e ∈ handed, e.2.late = false) ∧ u.time = target ∧ u.step engine = none := by
  induction planned generalizing s with
  | nil =>
    obtain ⟨unfolds, -, time, done⟩ := (steady_timeline prompt).unfolds_advanceTo runs start
    exact ⟨[], _, rfl, unfolds, rfl, nofun, time, done⟩
  | cons e later ih =>
    obtain ⟨time, c⟩ := e
    obtain ⟨first, sorted⟩ := List.pairwise_cons.1 sorted
    obtain ⟨⟨late, early⟩, times⟩ := List.forall_mem_cons.1 times
    have advanced : (timeline engine).Unfolds Submits s [] _ ∧ _ :=
      (steady_timeline prompt).unfolds_advanceTo runs late
    obtain ⟨before, runs, now, done⟩ := advanced
    obtain ⟨room, site, submitted, runs, submits⟩ := runs.exists_submit c done
    obtain ⟨handed, u, handedIn, unfolds, same, punctual, rest⟩ :=
      ih runs sorted ((Nat.le_trans (Nat.le_of_eq now) early))
        fun e mem ↦ ⟨Nat.le_trans (Nat.le_of_eq now) (first e mem), (times e mem).2⟩
    refine ⟨(time, ⟨c, false, room⟩) :: handed, u, ?_, ?_, ?_, ?_, rest⟩
    · rw [handIn]
      exact bind_eq_ok_iff.2 ⟨_, submitted, handedIn⟩
    · have act := Timeline.Unfolds.act (m := timeline engine) submits unfolds
      rw [now] at act
      exact before.append act
    · rw [← same]
      rfl
    · exact List.forall_mem_cons.2 ⟨rfl, punctual⟩

/-- Whenever a worker has nothing to do, whatever came first at each moment, it has run the passes
of the bursts as far as their time has come, and these are the greedy cut where nothing was late.
Whatever is to be handed in in the course of time, it can be handed in so. -/
theorem passes_eq_bursts (prompt : Prompt engine) (debounce : 0 < s.timing.debounce)
    (idlePoll : 0 < s.timing.idlePoll) (fresh : s.Fresh) :
    (∀ handed u, (timeline engine).Unfolds Submits s handed u → Clear s.timing.debounce handed →
      u.step engine = none →
      u.passes = s.passes ++ ((bursts s.timing.debounce handed).flatMap
        (passesOf s.timing.debounce)).filter (·.1 ≤ u.time) ∧
      ((∀ e ∈ handed, e.2.late = false) → u.passes = s.passes ++
        (cut s.timing.debounce (schedule handed)).filter (·.1 ≤ u.time))) ∧
    ∀ target planned, Clear s.timing.debounce planned →
      planned.Pairwise (·.1 ≤ ·.1) → (∀ e ∈ planned, s.time ≤ e.1 ∧ e.1 ≤ target) →
      s.time ≤ target → (∀ pass ∈ cut s.timing.debounce planned, pass.1 ≤ target) →
      ∃ handed u, handIn engine target planned s = .ok u ∧
        (timeline engine).Unfolds Submits s handed u ∧ schedule handed = planned ∧
        (∀ e ∈ handed, e.2.late = false) ∧
        u.passes = s.passes ++ cut s.timing.debounce planned := by
  have course {handed : List (Nat × Arrival)} {u : State}
      (unfolds : (timeline engine).Unfolds Submits s handed u)
      (clear : Clear s.timing.debounce handed) (done : u.step engine = none) :=
    passes_of_unfolds prompt debounce unfolds fresh.handles clear done
  refine ⟨fun handed u unfolds clear done ↦ ⟨course unfolds clear done, fun punctual ↦ ?_⟩,
    fun target planned clear sorted times start ended ↦ ?_⟩
  · rw [← flatMap_passesOf _ punctual]
    exact course unfolds clear done
  · obtain ⟨handed, u, handedIn, unfolds, rfl, punctual, time, done⟩ :=
      exists_handIn prompt (fresh.runs debounce idlePoll) sorted start times
    refine ⟨handed, u, handedIn, unfolds, rfl, punctual, ?_⟩
    rw [course unfolds ((clear_map_iff _ _ _).1 clear) done, List.nil_append,
      flatMap_passesOf _ punctual, time, List.filter_eq_self.2 (by simpa using ended)]

end

/-! ### Two bursts at a queue with room for one wake-up -/

namespace Tight

def engine : Engine := fun _ _ _ site ↦ ((0, .succeeded), site)

theorem prompt_engine : Prompt engine := ⟨⟨fun _ _ _ _ ↦ rfl, fun _ _ _ _ ↦ rfl⟩, fun _ _ _ _ ↦ rfl⟩

/-- A worker was started that waits for ten milliseconds once it is woken, and for four before. -/
def start : State :=
  (State.start ⟨10, 4⟩ (.empty ⟨[], 1, false, Nat.one_pos, by decide⟩)).startWorker.2

theorem fresh_start : start.Fresh := ⟨⟨4, rfl⟩, rfl, rfl, rfl⟩

def low : ComponentId := ⟨List.replicate 16 5, List.length_replicate⟩

def high : ComponentId := ⟨List.replicate 16 6, List.length_replicate⟩

/-- Three are handed in within ten milliseconds, of which the second finds the queue full; the first
and the last come as the worker's wait for a wake-up ends. -/
def planned : List (Nat × ComponentId) := [(4, high), (4, low), (13, high), (22, low)]

theorem bursts_planned : bursts 10 planned = [(4, [high, low, high]), (22, [low])] := by
  simp [planned, bursts, since]

theorem cut_planned : cut 10 planned = [(14, [low, high]), (32, [low])] := by
  rw [cut, bursts_planned]
  decide

/-- There is one pass for the first three and one for the last. -/
theorem passes_planned : Prompt engine ∧ 0 < start.timing.debounce ∧ 0 < start.timing.idlePoll ∧
    start.Fresh ∧
    ∃ u, handIn engine 40 planned start = .ok u ∧ u.passes = [(14, [low, high]), (32, [low])] := by
  refine ⟨prompt_engine, by decide, by decide, fresh_start, ?_⟩
  have passes := (passes_eq_bursts prompt_engine (by decide) (by decide) fresh_start).2 40 planned
  rw [show start.timing.debounce = 10 from rfl, cut_planned, Clear, bursts_planned] at passes
  obtain ⟨handed, u, handedIn, -, -, -, passes⟩ :=
    passes (by decide) (by decide) (by decide) (by decide) (by decide)
  exact ⟨u, handedIn, passes⟩

/-- One component, which is handed in between the look for a wake-up and the taking of the marks. -/
def handed : List (Nat × Arrival) := [(4, ⟨low, true, true⟩)]

theorem bursts_handed : bursts 10 (schedule handed) = [(4, [low])] := by
  simp [handed, schedule, bursts, since]

theorem exists_unfolds_handed : ∃ u, (timeline engine).Unfolds Submits start handed u ∧
    u.step engine = none ∧ u.time = 14 ∧ u.passes = [(4, [low]), (14, [low])] :=
  -- the worker ends its wait and looks
  ⟨_, .wait (n := 4) rfl (by decide) (by decide) <| .step rfl <| .step rfl <|
    .act ⟨rfl, _, rfl, rfl⟩ <|
    -- it takes the mark and ends the pass, and receives the wake-up that it finds
    .step rfl <| .step rfl <| .step rfl <|
    .wait (n := 14) rfl (by decide) (by decide) <| .step rfl <| .step rfl <| .step rfl <| .nil _,
    rfl, rfl, by decide⟩

/-- The component is in a pass at once, and again at the end of its span, which is not the cut. -/
theorem passes_ne_cut : Prompt engine ∧ 0 < start.timing.debounce ∧ 0 < start.timing.idlePoll ∧
    start.Fresh ∧ Clear start.timing.debounce (schedule handed) ∧
    ∃ u, (timeline engine).Unfolds Submits start handed u ∧ u.step engine = none ∧
      u.passes = [(4, [low]), (14, [low])] ∧ u.passes ≠ start.passes ++
        (cut start.timing.debounce (schedule handed)).filter (·.1 ≤ u.time) := by
  obtain ⟨u, unfolds, done, time, passes⟩ := exists_unfolds_handed
  refine ⟨prompt_engine, by decide, by decide, fresh_start, ?_, u, unfolds, done, passes, ?_⟩
  · show Clear 10 (schedule handed)
    rw [Clear, bursts_handed]
    decide
  · show _ ≠ _ ++ (cut 10 (schedule handed)).filter _
    rw [passes, cut, bursts_handed, time]
    decide

end Tight

end State

end Cascade.Worker
