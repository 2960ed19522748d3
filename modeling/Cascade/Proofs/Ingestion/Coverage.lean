import Cascade.Proofs.Ingestion.Interleaving
import Cascade.Proofs.Site
import Mathlib.Tactic.Tauto

/-!
# Signals that miss their evaluation

A component is pending if it is marked, stands in the queue, or is still to be marked or read by the
worker.  `Step.pending_iff` says what one step does to that: a mark and a wake-up that finds room
make a component pending, and reading its signals uses that up.

`not_covered_iff` concludes which signals are kept, accepted, and not evaluated: those whose mark
was used up by a pass that read the component before the signal was appended, and whose own wake-up
found no room after that, like all others for the component.
-/

namespace Cascade.Interleaving

open Store Ingestion

section

variable {r : Roster} {s t u : State} {e : Event} {es fs : List Event} {k : Nat} {call : Call}
  {c id : ComponentId} {site site' : Site}

/-! ## Pending components -/

namespace Activity

/-- Whether the worker is still to mark or to read a component. -/
def Owes (c : ComponentId) : Activity → Prop
  | waiting => False
  | coalescing => False
  | holding id => id = c
  | due => False
  | passing unread => c ∈ unread

@[simp] theorem not_owes_waiting : ¬ waiting.Owes c := fun h ↦ h

@[simp] theorem not_owes_coalescing : ¬ coalescing.Owes c := fun h ↦ h

@[simp] theorem owes_holding : (holding id).Owes c ↔ id = c := Iff.rfl

@[simp] theorem not_owes_due : ¬ due.Owes c := fun h ↦ h

@[simp] theorem owes_passing {unread : List ComponentId} :
    (passing unread).Owes c ↔ c ∈ unread := Iff.rfl

@[simp] theorem owes_ofDrained {dirty : IdSet} : (ofDrained dirty).Owes c ↔ c ∈ dirty := by
  unfold ofDrained
  rw [← IdMap.mem_keys]
  split
  · rename_i empty
    have none : dirty.keys = [] := by
      rw [IdMap.keys, List.isEmpty_iff.1 empty]
      rfl
    simp [none]
  · exact Iff.rfl

end Activity

/-- A component is marked, or stands in the queue, or the worker is still to mark or to read it. -/
def State.Pending (s : State) (c : ComponentId) : Prop :=
  c ∈ s.site.marks.ids ∨ c ∈ s.site.queue.items ∨ s.worker.Owes c

/-- An event makes a component pending. -/
def Event.Renews (c : ComponentId) : Event → Prop
  | mark _ id => id = c
  | wake _ id room => id = c ∧ room = true
  | _ => False

theorem mem_mark (marked : site.mark id = .ok site') :
    (c ∈ site'.marks.ids ↔ id = c ∨ c ∈ site.marks.ids) ∧ site'.queue = site.queue := by
  obtain ⟨-, rfl⟩ := Site.mark_eq_ok_iff.1 marked
  exact ⟨IdMap.mem_add, rfl⟩

theorem marks_append {record : SignalRecord} {outcome : AppendOutcome}
    (appended : site.append record = .ok (outcome, site')) :
    site'.marks = site.marks ∧ site'.queue = site.queue := by
  obtain ⟨-, _, -, rfl⟩ := Site.append_eq_ok_iff.1 appended
  exact ⟨rfl, rfl⟩

/-- What a step does to a component that is pending or not. -/
theorem Step.pending_iff (step : Step r s e t) :
    (t.Pending c ∨ e = .read c) ↔ (s.Pending c ∨ e.Renews c) := by
  cases step with
  | arrive known room => simp [State.Pending, Event.Renews]
  | mark here stage marked =>
    obtain ⟨marks, queue⟩ := mem_mark (c := c) marked
    simp only [State.Pending, State.advance, Event.Renews, marks, queue, reduceCtorEq, or_false]
    tauto
  | append here stage appended =>
    obtain ⟨marks, queue⟩ := marks_append appended
    simp [State.Pending, State.advance, Event.Renews, marks, queue]
  | wake here stage pushed =>
    subst pushed
    simp only [State.Pending, State.advance, Event.Renews, settle, Site.wake, Worker.Queue.mem_push,
      reduceCtorEq, or_false]
    tauto
  | receive idle next =>
    have items := Worker.Queue.items_of_pop? next
    have free : ¬ s.worker.Owes c := by
      rcases idle with h | h <;> simp [h]
    simp [State.Pending, Event.Renews, items, free, eq_comm, or_comm]
  | note holding marked =>
    obtain ⟨marks, queue⟩ := mem_mark (c := c) marked
    simp only [State.Pending, Event.Renews, marks, queue, holding, Activity.owes_holding,
      Activity.not_owes_coalescing, reduceCtorEq, or_false]
    tauto
  | poll waiting none => simp [State.Pending, Event.Renews, waiting]
  | close coalescing none => simp [State.Pending, Event.Renews, coalescing]
  | drain due =>
    simp [State.Pending, Event.Renews, Marks.drain, due, IdMap.mem_def, or_comm]
  | read passing found =>
    simp only [State.Pending, Event.Renews, passing, Activity.owes_passing, List.mem_cons,
      Event.read.injEq]
    tauto
  | finish passing written => simp [State.Pending, Event.Renews, passing]

/-- What steps one after another do to a component that is pending or not. -/
theorem Run.pending_iff (run : Run r s es t) :
    (t.Pending c ∨ .read c ∈ es) ↔ (s.Pending c ∨ ∃ e ∈ es, e.Renews c) := by
  induction run with
  | nil s => simp
  | @cons s t u e es step _ ih =>
    simp only [List.mem_cons, exists_eq_or_imp, eq_comm (a := Event.read c)]
    calc
      (u.Pending c ∨ e = .read c ∨ .read c ∈ es) ↔ e = .read c ∨ (u.Pending c ∨ .read c ∈ es) :=
        or_left_comm
      _ ↔ (e = .read c ∨ t.Pending c) ∨ ∃ e ∈ es, e.Renews c := by rw [ih, or_assoc]
      _ ↔ (s.Pending c ∨ e.Renews c) ∨ ∃ e ∈ es, e.Renews c := by
        rw [or_comm (a := e = _), step.pending_iff]
      _ ↔ s.Pending c ∨ e.Renews c ∨ ∃ e ∈ es, e.Renews c := or_assoc

/-! ## The steps of one call -/

/-- The steps of a call so far. -/
def Call.Course (k : Nat) (call : Call) (es : List Event) : Prop :=
  match call.stage with
  | .admitted => es = []
  | .marked => es = [.mark k call.component]
  | .kept => es = [.mark k call.component, .append k]
  | .returned .accepted =>
    ∃ room, es = [.mark k call.component, .append k, .wake k call.component room]
  | .returned _ => es = [.mark k call.component, .append k]

/-- The events so far hold the steps of every call, and no others. -/
structure Chronicle (s : State) (es : List Event) : Prop where
  /-- Every call has gone its course. -/
  begun : ∀ {k : Nat} {call : Call}, s.calls[k]? = some call → call.Course k (es.filter (·.isOf k))
  /-- There are no steps of a call that was not admitted. -/
  other : ∀ {k : Nat}, s.calls[k]? = none → es.filter (·.isOf k) = []

theorem chronicle_start (start : s.calls = []) : Chronicle s [] where
  begun h := by
    rw [start] at h
    cases h
  other _ := rfl

/-- An event of no call leaves the steps of all calls. -/
theorem Chronicle.skip (h : Chronicle s es) (calls : t.calls = s.calls)
    (foreign : ∀ k, e.isOf k = false) : Chronicle t (es ++ [e]) := by
  have same : ∀ k, (es ++ [e]).filter (·.isOf k) = es.filter (·.isOf k) := by
    intro k
    simp [foreign]
  constructor
  · intro k call here
    rw [same]
    exact h.begun (calls ▸ here)
  · intro k absent
    rw [same]
    exact h.other (calls ▸ absent)

/-- A step of a call goes on with its course. -/
theorem Chronicle.advance {stage : Stage} (h : Chronicle s es) (here : s.calls[k]? = some call)
    (own : ∀ j, e.isOf j = decide (k = j))
    (onward : ∀ l, call.Course k l → ({ call with stage } : Call).Course k (l ++ [e])) :
    Chronicle (s.advance k call stage site) (es ++ [e]) := by
  obtain ⟨inside, -⟩ := List.getElem?_eq_some_iff.1 here
  constructor
  · intro j call' there
    rw [List.filter_append]
    by_cases eq : k = j
    · subst eq
      rw [State.advance, List.getElem?_set_self inside] at there
      cases there
      simpa [own] using onward _ (h.begun here)
    · rw [State.advance, List.getElem?_set_ne eq] at there
      simpa [own, eq] using h.begun there
  · intro j absent
    rw [State.advance, List.getElem?_set] at absent
    split at absent
    · rename_i eq
      subst eq
      cases absent
    · rename_i eq
      simpa [own, eq] using h.other absent

theorem Chronicle.step (h : Chronicle s es) (step : Step r s e t) : Chronicle t (es ++ [e]) := by
  cases step with
  | arrive known room =>
    have same : ∀ k, (es ++ [Event.arrive]).filter (·.isOf k) = es.filter (·.isOf k) := by
      intro k
      simp [Event.isOf]
    constructor
    · intro k call here
      rw [same]
      rw [List.getElem?_append] at here
      split at here
      · exact h.begun here
      · rename_i beyond
        have none := h.other (List.getElem?_eq_none (Nat.le_of_not_lt beyond))
        rw [none]
        obtain rfl := List.mem_singleton.1 (List.mem_of_getElem? here)
        rfl
    · intro k absent
      rw [same]
      refine h.other (List.getElem?_eq_none ?_)
      have := List.getElem?_eq_none_iff.1 absent
      rw [List.length_append] at this
      omega
  | mark here stage marked =>
    refine h.advance here (fun j ↦ rfl) fun l course ↦ ?_
    simp only [Call.Course, stage] at course ⊢
    rw [course]
    rfl
  | @append k call now outcome site here stage appended =>
    refine h.advance here (fun j ↦ rfl) fun l course ↦ ?_
    simp only [Call.Course, stage] at course ⊢
    rw [course]
    cases outcome with
    | inserted => rfl
    | duplicate => rfl
  | wake here stage pushed =>
    refine h.advance here (fun j ↦ rfl) fun l course ↦ ?_
    simp only [Call.Course, stage] at course ⊢
    rw [course]
    exact ⟨_, rfl⟩
  | receive idle next => exact h.skip rfl fun _ ↦ rfl
  | note holding marked => exact h.skip rfl fun _ ↦ rfl
  | poll waiting none => exact h.skip rfl fun _ ↦ rfl
  | close coalescing none => exact h.skip rfl fun _ ↦ rfl
  | drain due => exact h.skip rfl fun _ ↦ rfl
  | read passing found => exact h.skip rfl fun _ ↦ rfl
  | finish passing written => exact h.skip rfl fun _ ↦ rfl

theorem Chronicle.run (h : Chronicle s es) (run : Run r s fs t) : Chronicle t (es ++ fs) := by
  induction run generalizing es with
  | nil s =>
    rw [List.append_nil]
    exact h
  | cons step _ ih =>
    rw [List.append_cons]
    exact ih (h.step step)

/-! ## Signals that are not evaluated -/

/-- What happened before a call appended its signal. -/
def beforeAppend (k : Nat) (es : List Event) : List Event := es.takeWhile (· ≠ .append k)

/-- What happened since a call appended its signal, that first. -/
def sinceAppend (k : Nat) (es : List Event) : List Event := es.dropWhile (· ≠ .append k)

/-- The component of a call is pending, or some pass has read it after the call appended its
signal. -/
def Covered (t : State) (es : List Event) (k : Nat) (c : ComponentId) : Prop :=
  t.Pending c ∨ .read c ∈ sinceAppend k es

/-- How a signal misses its evaluation. -/
structure Missed (r : Roster) (s : State) (es : List Event) (t : State) (k : Nat)
    (c : ComponentId) : Prop where
  /-- A pass read the component after it was marked, and before the signal was appended. -/
  early : .read c ∈ (beforeAppend k es).dropWhile (· ≠ .mark k c)
  /-- The wake-up of the call found no room. -/
  dropped : .wake k c false ∈ sinceAppend k es
  /-- When the signal was appended the component was not pending, and nothing made it so later. -/
  forgotten : ∃ u later, sinceAppend k es = .append k :: later ∧
    Run r s (beforeAppend k es ++ [.append k]) u ∧ Run r u later t ∧ ¬ u.Pending c ∧
    ∀ e ∈ later, ¬ e.Renews c

/-- An accepted call has marked its component, appended its signal, and woken the worker. -/
theorem exists_course (start : s.calls = []) (run : Run r s es t) (here : t.calls[k]? = some call)
    (accepted : call.stage = .returned .accepted) :
    ∃ first early later room, beforeAppend k es = first ++ .mark k call.component :: early ∧
      .mark k call.component ∉ first ∧ sinceAppend k es = .append k :: later ∧
      .wake k call.component room ∈ later := by
  have course := ((chronicle_start start).run run).begun here
  simp only [Call.Course, accepted, List.nil_append] at course
  obtain ⟨room, course⟩ := course
  obtain ⟨first, rest, rfl, foreign, -, course⟩ := List.filter_eq_cons_iff.1 course
  obtain ⟨early, later, rfl, foreign', -, course⟩ := List.filter_eq_cons_iff.1 course
  have woken : .wake k call.component room ∈ later := by
    have member : .wake k call.component room ∈ later.filter (·.isOf k) := by
      rw [course]
      exact List.mem_singleton_self _
    exact (List.mem_filter.1 member).1
  -- no step of the call comes before its mark, and none between the mark and the append
  have mine : Event.isOf k (.append k) = true := decide_eq_true rfl
  have before : ∀ e ∈ first ++ .mark k call.component :: early, decide (e ≠ .append k) = true := by
    intro e he
    refine decide_eq_true ?_
    rintro rfl
    rcases List.mem_append.1 he with he | he
    · exact foreign _ he mine
    · rcases List.mem_cons.1 he with he | he
      · cases he
      · exact foreign' _ he mine
  have split : first ++ .mark k call.component :: (early ++ .append k :: later) =
      (first ++ .mark k call.component :: early) ++ .append k :: later := by simp
  refine ⟨first, early, later, room, ?_, ?_, ?_, woken⟩
  · rw [split, beforeAppend, List.takeWhile_append_of_pos before]
    simp
  · intro he
    exact foreign _ he (decide_eq_true rfl)
  · rw [split, sinceAppend, List.dropWhile_append_of_pos before]
    simp

/-- Whether a pass used up the mark of a call: from the mark to the append the component stops
being pending only by being read. -/
theorem read_of_not_pending (run : Run r s (.mark k c :: (es ++ [.append k])) u)
    (calm : ¬ u.Pending c) : .read c ∈ es := by
  cases run with
  | cons mark rest =>
    have marked := mark.pending_iff.2 (.inr (rfl : Event.Renews c (.mark k c)))
    have pending := marked.resolve_right (by simp)
    have read := (rest.pending_iff.2 (.inl pending)).resolve_left calm
    simpa using read

/-- The signal of an accepted call is not covered exactly if it missed its evaluation: its mark was
used up before the signal was appended, its wake-up was dropped, and nothing else made up for it. -/
theorem not_covered_iff (start : s.calls = []) (run : Run r s es t)
    (here : t.calls[k]? = some call) (accepted : call.stage = .returned .accepted) :
    ¬ Covered t es k call.component ↔ Missed r s es t k call.component := by
  obtain ⟨first, early, later, room, before, new, since, woken⟩ :=
    exists_course start run here accepted
  constructor
  · intro uncovered
    have whole : es = (beforeAppend k es ++ [.append k]) ++ later := by
      rw [List.append_assoc, List.singleton_append, ← since]
      exact List.takeWhile_append_dropWhile.symm
    rw [whole] at run
    obtain ⟨u, upTo, onward⟩ := run.split
    have quiet : ¬ (u.Pending call.component ∨ ∃ e ∈ later, e.Renews call.component) := by
      rw [← onward.pending_iff]
      rintro (pending | read)
      · exact uncovered (.inl pending)
      · refine uncovered (.inr ?_)
        rw [since]
        exact List.mem_cons_of_mem _ read
    have calm : ¬ u.Pending call.component := fun h ↦ quiet (.inl h)
    refine ⟨?_, ?_, u, later, since, upTo, onward, calm, fun e he h ↦ quiet (.inr ⟨e, he, h⟩)⟩
    · rw [before, List.append_assoc] at upTo
      obtain ⟨v, -, rest⟩ := upTo.split
      have read := read_of_not_pending rest calm
      have other : ∀ e ∈ first, decide (e ≠ .mark k call.component) = true :=
        fun e he ↦ decide_eq_true fun eq ↦ new (eq ▸ he)
      rw [before, List.dropWhile_append_of_pos other, List.dropWhile_cons_of_neg (by simp)]
      exact List.mem_cons_of_mem _ read
    · cases room with
      | false =>
        rw [since]
        exact List.mem_cons_of_mem _ woken
      | true => exact absurd (.inr ⟨_, woken, rfl, rfl⟩) quiet
  · rintro ⟨-, -, u, later, since, -, onward, calm, unrenewed⟩ covered
    have again : t.Pending call.component ∨ .read call.component ∈ later := by
      rw [Covered, since, List.mem_cons] at covered
      simpa using covered
    rcases onward.pending_iff.1 again with pending | ⟨e, he, renews⟩
    · exact calm pending
    · exact unrenewed e he renews

end

/-! ### A signal that misses its evaluation -/

namespace Loss

def roster : Roster := ["a", "b"]

def site : Site := .empty ⟨[], 1, false, Nat.one_pos, Nat.zero_le 1⟩

def submission (name : String) : Submission := ⟨name, .critical, default, "probe", none⟩

def call (name : String) (stage : Stage) : Call := ⟨submission name, .ofName name, stage⟩

/-- There is no call yet, and the worker waits. -/
def start : State := ⟨site, [], .waiting⟩

/-- Two calls are admitted.  An idle worker takes the mark of the first before its signal is
appended, and the wake-up of the second leaves no room for that of the first. -/
def events : List Event :=
  [.arrive, .arrive, .mark 0 (.ofName "a"), .poll, .drain, .read (.ofName "a"), .finish,
    .mark 1 (.ofName "b"), .append 1, .wake 1 (.ofName "b") true, .append 0,
    .wake 0 (.ofName "a") false]

theorem run_events : ∃ t, Run roster start events t ∧
    t.calls[0]? = some (call "a" (.returned .accepted)) ∧ ¬ t.Pending (.ofName "a") := by
  have first : Step roster start .arrive ⟨site, [call "a" .admitted], .waiting⟩ :=
    .arrive (by simp [roster, Roster.idOf?, submission]) rfl
  have second : Step roster ⟨site, [call "a" .admitted], .waiting⟩ .arrive
      ⟨site, [call "a" .admitted, call "b" .admitted], .waiting⟩ :=
    .arrive (by simp [roster, Roster.idOf?, submission]) rfl
  refine Run.exists_cons first (Run.exists_cons second ?_)
  refine Run.exists_cons (@Step.mark _ _ 0 (call "a" .admitted) _ rfl rfl rfl) ?_
  refine Run.exists_cons (.poll rfl rfl) ?_
  refine Run.exists_cons (.drain rfl) ?_
  refine Run.exists_cons (.read rfl rfl) ?_
  refine Run.exists_cons (@Step.finish _ _ default _ rfl rfl) ?_
  refine Run.exists_cons (@Step.mark _ _ 1 (call "b" .admitted) _ rfl rfl rfl) ?_
  refine Run.exists_cons (@Step.append _ _ 1 (call "b" .marked) default _ _ rfl rfl rfl) ?_
  refine Run.exists_cons (@Step.wake _ _ 1 (call "b" .kept) _ rfl rfl rfl) ?_
  refine Run.exists_cons (@Step.append _ _ 0 (call "a" .marked) default _ _ rfl rfl rfl) ?_
  refine Run.exists_cons (@Step.wake _ _ 0 (call "a" .kept) _ rfl rfl rfl) ?_
  have ne : ComponentId.ofName "b" ≠ ComponentId.ofName "a" := by decide +kernel
  refine ⟨_, .nil _, rfl, ?_⟩
  rintro (marked | queued | owed)
  · rcases IdMap.mem_add.1 marked with eq | old
    · exact ne eq
    · cases old
  · exact ne (List.mem_singleton.1 queued).symm
  · exact owed

/-- The first signal is kept and accepted, and nothing will make the worker look at it. -/
theorem missed_events : ∃ t, Run roster start events t ∧
    t.calls[0]? = some (call "a" (.returned .accepted)) ∧
    ¬ Covered t events 0 (.ofName "a") ∧ Missed roster start events t 0 (.ofName "a") := by
  obtain ⟨t, run, here, calm⟩ := run_events
  have uncovered : ¬ Covered t events 0 (.ofName "a") := by
    rintro (pending | read)
    · exact calm pending
    · have since : sinceAppend 0 events = [.append 0, .wake 0 (.ofName "a") false] := rfl
      rw [since] at read
      simp at read
  exact ⟨t, run, here, uncovered, (not_covered_iff rfl run here rfl).1 uncovered⟩

end Loss

end Cascade.Interleaving
