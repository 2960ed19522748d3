import Cascade.Proofs.Worker.Loop

/-!
# What becomes of components that were handed in

A component that was marked stays accounted for (`Covered`): it is marked, or among those of a pass
that runs or of one that failed and whose components are not all marked again, or a pass that began
after the mark had it and succeeded.  `Covered.step` shows that no step loses it, whatever becomes
of wake-ups and workers.

`covered_of_returned` concludes this for every call that returned.
-/

namespace Cascade.Worker.Loop

open Store

section

variable {d d' : Desk} {s t u : State} {e : Event} {es fs : List Event} {k w first n : Nat}
  {r : Runner} {a : Activity} {deed : Deed} {call : Call} {c id : ComponentId} {room : Bool}

/-! ## What a worker does to the components it has -/

/-- A pass that is not among the first ones took a component. -/
def Desk.Took (d : Desk) (first n : Nat) (c : ComponentId) : Prop :=
  first ≤ n ∧ ∃ dirty, d.passes[n]? = some dirty ∧ c ∈ dirty

theorem Desk.Took.mono {more : List IdSet} (took : d.Took first n c)
    (passes : d'.passes = d.passes ++ more) : d'.Took first n c := by
  obtain ⟨late, dirty, there, mem⟩ := took
  refine ⟨late, dirty, ?_, mem⟩
  rw [passes]
  exact List.getElem?_append_left (List.getElem?_eq_some_iff.1 there).1 ▸ there

/-- Passes that have begun stay on record. -/
theorem Work.exists_passes (work : Work d r deed d' a) : ∃ more, d'.passes = d.passes ++ more := by
  cases work with
  | begin due some => exact ⟨_, rfl⟩
  | _ => exact ⟨[], (List.append_nil _).symm⟩

/-- A worker leaves a component marked, or begins a pass that takes it. -/
theorem Work.of_mem_marks (work : Work d r deed d' a) (mem : c ∈ d.marks.ids) :
    c ∈ d'.marks.ids ∨ ∃ n, a = .passing n ∧ d'.Took d.passes.length n c := by
  cases work with
  | note holding marked => exact .inl ((Marks.mem_mark marked).2 (.inr mem))
  | restore restoring marked => exact .inl ((Marks.mem_mark marked).2 (.inr mem))
  | begin due some =>
    exact .inr ⟨_, rfl, Nat.le_refl _, _, List.getElem?_concat_length, mem⟩
  | _ => exact .inl mem

/-- A pass succeeds, or all its components are to be marked again. -/
theorem Work.of_passing (work : Work d r deed d' a) (passing : r.activity = .passing n)
    (took : d.Took first n c) : deed = .succeed n ∨ ∃ left, a = .restoring left ∧ c ∈ left := by
  cases work with
  | succeed passing' =>
    cases passing.symm.trans passing'
    exact .inl rfl
  | fail passing' there =>
    cases passing.symm.trans passing'
    obtain ⟨-, dirty, there', mem⟩ := took
    cases there.symm.trans there'
    exact .inr ⟨_, rfl, IdMap.mem_keys.2 mem⟩
  | _ => simp_all

/-- A component that is to be marked again is marked, or stays to be marked. -/
theorem Work.of_restoring {left : List ComponentId} (work : Work d r deed d' a)
    (restoring : r.activity = .restoring left) (mem : c ∈ left) :
    c ∈ d'.marks.ids ∨ ∃ left, a = .restoring left ∧ c ∈ left := by
  cases work with
  | restore restoring' marked =>
    cases restoring.symm.trans restoring'
    rcases List.mem_cons.1 mem with rfl | mem
    · exact .inl ((Marks.mem_mark marked).2 (.inl rfl))
    · exact .inr ⟨_, rfl, mem⟩
  | resume restoring' =>
    cases restoring.symm.trans restoring'
    cases mem
  | _ => simp_all

/-! ## Components that were marked -/

/-- How a component is accounted for that was marked when so many passes had begun. -/
inductive Covered (first : Nat) (es : List Event) (s : State) (c : ComponentId) : Prop
  | marked (mem : c ∈ s.desk.marks.ids)
  /-- A pass is running that took it. -/
  | passing {w n : Nat} {r : Runner} (here : s.workers[w]? = some r)
      (active : r.activity = .passing n) (took : s.desk.Took first n c)
  /-- A pass failed, and it is to be marked again. -/
  | restoring {w : Nat} {r : Runner} {left : List ComponentId} (here : s.workers[w]? = some r)
      (active : r.activity = .restoring left) (mem : c ∈ left)
  /-- A pass that took it succeeded. -/
  | evaluated {w n : Nat} (succeeded : .work w (.succeed n) ∈ es) (took : s.desk.Took first n c)

theorem Step.exists_passes (step : Step s e t) :
    ∃ more, t.desk.passes = s.desk.passes ++ more := by
  cases step with
  | work here work => exact work.exists_passes
  | _ => exact ⟨[], (List.append_nil _).symm⟩

theorem Step.took (step : Step s e t) (took : s.desk.Took first n c) : t.desk.Took first n c := by
  obtain ⟨more, passes⟩ := step.exists_passes
  exact took.mono passes

/-- A component stays marked, or a worker begins a pass that takes it. -/
theorem Step.of_mem_marks (step : Step s e t) (mem : c ∈ s.desk.marks.ids) :
    c ∈ t.desk.marks.ids ∨ ∃ (w : Nat) (r : Runner) (n : Nat), t.workers[w]? = some r ∧
      r.activity = .passing n ∧ t.desk.Took s.desk.passes.length n c := by
  cases step with
  | mark here stage marked => exact .inl ((Marks.mem_mark marked).2 (.inr mem))
  | @work w r deed desk activity here work =>
    refine (work.of_mem_marks mem).imp_right ?_
    rintro ⟨n, passing, took⟩
    exact ⟨w, _, n, List.getElem?_set_self (List.getElem?_eq_some_iff.1 here).1, passing, took⟩
  | _ => exact .inl mem

/-- A worker goes on as it was, or the step is its own. -/
theorem Step.of_worker (step : Step s e t) (here : s.workers[w]? = some r) :
    (∃ r' : Runner, t.workers[w]? = some r' ∧ r'.activity = r.activity) ∨
      ∃ deed a, e = .work w deed ∧ Work s.desk r deed t.desk a ∧
        t.workers[w]? = some { r with activity := a } := by
  obtain ⟨inside, -⟩ := List.getElem?_eq_some_iff.1 here
  cases step with
  | start => exact .inl ⟨r, (List.getElem?_append_left inside).trans here, rfl⟩
  | @cancel w' r' here' =>
    by_cases eq : w' = w
    · subst eq
      cases here.symm.trans here'
      exact .inl ⟨_, List.getElem?_set_self inside, rfl⟩
    · exact .inl ⟨r, (List.getElem?_set_ne eq).trans here, rfl⟩
  | @work w' r' deed desk a here' work =>
    by_cases eq : w' = w
    · subst eq
      cases here.symm.trans here'
      exact .inr ⟨deed, a, rfl, work, List.getElem?_set_self inside⟩
    · exact .inl ⟨r, (List.getElem?_set_ne eq).trans here, rfl⟩
  | _ => exact .inl ⟨r, here, rfl⟩

/-- No step loses a component. -/
theorem Covered.step (covered : Covered first es s c) (begun : first ≤ s.desk.passes.length)
    (step : Step s e t) : Covered first (es ++ [e]) t c := by
  cases covered with
  | marked mem =>
    rcases step.of_mem_marks mem with mem | ⟨w, r, n, here, active, late, took⟩
    · exact .marked mem
    · exact .passing here active ⟨Nat.le_trans begun late, took⟩
  | passing here active took =>
    rcases step.of_worker here with ⟨r', here', same⟩ | ⟨deed, a, rfl, work, here'⟩
    · exact .passing here' (same.trans active) (step.took took)
    · rcases work.of_passing active took with rfl | ⟨left, rfl, mem⟩
      · exact .evaluated (List.mem_append_right _ (List.mem_singleton_self _)) (step.took took)
      · exact .restoring here' rfl mem
  | restoring here active mem =>
    rcases step.of_worker here with ⟨r', here', same⟩ | ⟨deed, a, rfl, work, here'⟩
    · exact .restoring here' (same.trans active) mem
    · rcases work.of_restoring active mem with mem | ⟨left, rfl, mem⟩
      · exact .marked mem
      · exact .restoring here' rfl mem
  | evaluated succeeded took =>
    exact .evaluated (List.mem_append_left _ succeeded) (step.took took)

theorem Covered.run (covered : Covered first es s c) (begun : first ≤ s.desk.passes.length)
    (run : Run s fs t) : Covered first (es ++ fs) t c := by
  induction run generalizing es with
  | nil s =>
    rw [List.append_nil]
    exact covered
  | cons step _ ih =>
    obtain ⟨more, passes⟩ := step.exists_passes
    rw [List.append_cons]
    refine ih (covered.step begun step) (Nat.le_trans begun ?_)
    rw [passes, List.length_append]
    exact Nat.le_add_right _ _

/-! ## Calls that returned -/

theorem Step.mem_of_mark (step : Step s (.mark k c) t) :
    c ∈ t.desk.marks.ids ∧ t.desk.passes = s.desk.passes := by
  cases step with
  | mark here stage marked => exact ⟨(Marks.mem_mark marked).2 (.inl rfl), rfl⟩

/-- A call marked its component, or is yet to do so. -/
def Call.Marked (k : Nat) (call : Call) (es : List Event) : Prop :=
  call.stage = .called ∨ .mark k call.component ∈ es

theorem Step.marked (step : Step s e t)
    (all : ∀ (k : Nat) (call : Call), s.calls[k]? = some call → call.Marked k es)
    (here : t.calls[k]? = some call) : call.Marked k (es ++ [e]) := by
  have keep {call : Call} (here : s.calls[k]? = some call) : call.Marked k (es ++ [e]) :=
    (all k call here).imp_right (List.mem_append_left _)
  cases step with
  | call id =>
    rw [List.getElem?_append] at here
    split at here
    · exact keep here
    · obtain rfl := List.mem_singleton.1 (List.mem_of_getElem? here)
      exact .inl rfl
  | @mark j own marks there stage marked =>
    by_cases eq : j = k
    · subst eq
      rw [List.getElem?_set_self (List.getElem?_eq_some_iff.1 there).1] at here
      cases here
      exact .inr (List.mem_append_right _ (List.mem_singleton_self _))
    · rw [List.getElem?_set_ne eq] at here
      exact keep here
  | @wake j own room queue there stage pushed =>
    by_cases eq : j = k
    · subst eq
      rw [List.getElem?_set_self (List.getElem?_eq_some_iff.1 there).1] at here
      cases here
      exact .inr ((keep there).resolve_left (by simp [stage]))
    · rw [List.getElem?_set_ne eq] at here
      exact keep here
  | _ => exact keep here

/-- A call that has come further than its begin has marked its component. -/
theorem Run.marked (run : Run s fs t)
    (all : ∀ (k : Nat) (call : Call), s.calls[k]? = some call → call.Marked k es)
    (here : t.calls[k]? = some call) : call.Marked k (es ++ fs) := by
  induction run generalizing es with
  | nil s =>
    rw [List.append_nil]
    exact all k call here
  | cons step _ ih =>
    rw [List.append_cons]
    exact ih (fun k call ↦ step.marked all) here

/-- No component is lost for which a call returned, whether its wake-up found room or not: since the
call marked it, the component is marked, or in a pass that runs, or to be marked again after a pass
that failed, or a pass that began later took it and succeeded. -/
theorem covered_of_returned (start : s.calls = []) (run : Run s es t)
    (here : t.calls[k]? = some call) (returned : call.stage = .returned room) :
    ∃ before after u, es = before ++ .mark k call.component :: after ∧ Run s before u ∧
      Covered u.desk.passes.length after t call.component := by
  have marked : call.Marked k ([] ++ es) := run.marked (by simp [start]) here
  have mem := marked.resolve_left (by simp [returned])
  obtain ⟨before, after, rfl⟩ := List.append_of_mem mem
  obtain ⟨u, first, rest⟩ := run.split
  refine ⟨before, after, u, rfl, first, ?_⟩
  cases rest with
  | cons mark later =>
    have ⟨mem, passes⟩ := mark.mem_of_mark
    have begun : u.desk.passes.length ≤ _ := Nat.le_of_eq (congrArg List.length passes.symm)
    have covered : Covered u.desk.passes.length ([] ++ _) t call.component :=
      Covered.run (.marked mem) begun later
    exact covered

end

/-! ### A worker that is stopped while it waits for more -/

namespace Restart

def low : ComponentId := ⟨List.replicate 16 0, List.length_replicate⟩

def high : ComponentId := ⟨List.replicate 16 1, List.length_replicate⟩

/-- There is room for one wake-up, and nothing has begun. -/
def start : State := ⟨⟨.empty, ⟨[], 1, false, Nat.one_pos, Nat.le_succ 0⟩, []⟩, [], []⟩

/-- Two components are handed in, the second of which finds the queue full.  The worker takes the
wake-up of the first and is stopped before its wait is over.  The pass of the next worker fails, and
the worker has come to the second component when it marks both again. -/
def events : List Event :=
  [.call low, .mark 0 low, .wake 0 true, .call high, .mark 1 high, .wake 1 false,
    .start, .work 0 (.receive low), .work 0 (.note low), .cancel 0, .work 0 .quit,
    .start, .work 1 .poll, .work 1 (.begin 0), .work 1 (.fail 0), .work 1 (.restore low)]

theorem run_events : ∃ t, Run start events t ∧ t.calls[1]? = some ⟨high, .returned false⟩ ∧
    high ∉ t.desk.marks.ids := by
  refine Run.exists_cons (.call low) ?_
  refine Run.exists_cons (@Step.mark _ 0 ⟨low, .called⟩ _ rfl rfl rfl) ?_
  refine Run.exists_cons (@Step.wake _ 0 ⟨low, .marked⟩ _ _ rfl rfl rfl) ?_
  refine Run.exists_cons (.call high) ?_
  refine Run.exists_cons (@Step.mark _ 1 ⟨high, .called⟩ _ rfl rfl rfl) ?_
  refine Run.exists_cons (@Step.wake _ 1 ⟨high, .marked⟩ _ _ rfl rfl rfl) ?_
  refine Run.exists_cons .start ?_
  refine Run.exists_cons (.work rfl (.receive (.inl rfl) rfl)) ?_
  refine Run.exists_cons (.work rfl (.note rfl rfl)) ?_
  refine Run.exists_cons (.cancel rfl) ?_
  refine Run.exists_cons (.work rfl (.quit (.inr rfl) rfl)) ?_
  refine Run.exists_cons .start ?_
  refine Run.exists_cons (.work rfl (.poll rfl rfl)) ?_
  refine Run.exists_cons (.work rfl (.begin rfl rfl)) ?_
  refine Run.exists_cons (.work rfl (.fail rfl rfl)) ?_
  refine Run.exists_cons (.work rfl (.restore rfl rfl)) ?_
  exact ⟨_, .nil _, rfl, by decide⟩

/-- The second component is not lost. -/
theorem covered_events : ∃ t, Run start events t ∧
    t.calls[1]? = some ⟨high, .returned false⟩ ∧ high ∉ t.desk.marks.ids ∧
    ∃ before after u, events = before ++ .mark 1 high :: after ∧ Run start before u ∧
      Covered u.desk.passes.length after t high := by
  obtain ⟨t, run, here, unmarked⟩ := run_events
  exact ⟨t, run, here, unmarked, covered_of_returned rfl run here rfl⟩

end Restart

end Cascade.Worker.Loop
