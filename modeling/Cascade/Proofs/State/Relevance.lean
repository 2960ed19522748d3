import Cascade.Proofs.Time.Instant
import Cascade.State.Evaluation
import Mathlib.Data.List.Perm.Basic

/-!
# The signals that a state hangs on

Where both spans of a threshold lead back into the calendar, the state of a component hangs on the
signals in the window and on whether some trouble is fresh (`evaluate_eq`).  So it hangs on nothing
but the signals within the longer of the two spans, in any order (`hangsOn_reach`).

Fresh trouble never lets a component that was in trouble out of it.  It may still make a critical
component degraded: so it does where the warnings in the window reach their number and the critical
signals do not (`evaluate_of_fresh`).
-/

namespace Cascade

open Time

/-- The longer of the two spans. -/
def Threshold.reach (threshold : Threshold) : Span :=
  ⟨max threshold.window.nanos threshold.recovery.nanos⟩

namespace State

variable {signals s t : List Signal} {previous state : ComponentState} {threshold : Threshold}
  {now start quietStart first : Instant}

/-- The state that follows from the signals in the window, from whether trouble is fresh, and from
the state before. -/
def verdict (threshold : Threshold) (previous : ComponentState) (counted : List Signal)
    (fresh : Bool) : ComponentState :=
  if counted = [] then .unknown
  else if threshold.critical ≤ count counted .critical then .critical
  else if threshold.degraded ≤ count counted .warning then .degraded
  else if previous.isElevated ∧ fresh then previous
  else .healthy

theorem evaluate_eq (begins : now.back? threshold.window = some start)
    (quiet : now.back? threshold.recovery = some quietStart) :
    evaluate signals previous threshold now = some (verdict threshold previous
      (inWindow signals start now) (signals.any (isFreshTrouble quietStart now))) := by
  by_cases silent : signals = []
  · simp [evaluate, verdict, silent, inWindow]
  unfold verdict
  by_cases vacant : inWindow signals start now = []
  · simp [evaluate, silent, begins, vacant]
  by_cases critical : threshold.critical ≤ count (inWindow signals start now) .critical
  · simp [evaluate, silent, begins, vacant, critical]
  by_cases degraded : threshold.degraded ≤ count (inWindow signals start now) .warning
  · simp [evaluate, silent, begins, vacant, critical, degraded]
  cases elevated : previous.isElevated with
  | false => simp [evaluate, silent, begins, vacant, critical, degraded, elevated]
  | true => simp [evaluate, silent, begins, vacant, critical, degraded, elevated, quiet]

theorem mem_inWindow {x : Signal} :
    x ∈ inWindow signals start now ↔ x ∈ signals ∧ start ≤ x.occurredAt ∧ x.occurredAt ≤ now := by
  simp [inWindow, within, and_comm]

theorem isFreshTrouble_iff {x : Signal} : isFreshTrouble quietStart now x = true ↔
    x.severity ≠ .info ∧ quietStart < x.occurredAt ∧ x.occurredAt ≤ now := by
  simp [isFreshTrouble, and_assoc, and_comm]

/-- Signals of a severity that are counted are among the signals. -/
theorem exists_of_count_pos {severity : Severity}
    (pos : 0 < count (inWindow signals start now) severity) :
    ∃ x ∈ signals, x.severity = severity ∧ start ≤ x.occurredAt ∧ x.occurredAt ≤ now := by
  obtain ⟨x, mem, own⟩ := List.countP_pos_iff.1 pos
  obtain ⟨mem, dated⟩ := mem_inWindow.1 mem
  exact ⟨x, mem, of_decide_eq_true own, dated⟩

/-! ## Signals within the longer span -/

/-- The longer span begins no later than either of the two. -/
theorem exists_reach (begins : now.back? threshold.window = some start)
    (quiet : now.back? threshold.recovery = some quietStart) :
    ∃ first, now.back? threshold.reach = some first ∧ first ≤ start ∧ first ≤ quietStart := by
  have eq {d : Span} {u : Instant} (h : now.back? d = some u) : now.back d = u := by
    simp only [Instant.back?, Option.ite_none_right_eq_some] at h
    exact Option.some.inj h.2
  have early {d : Span} (le : d.nanos ≤ threshold.reach.nanos) := @Instant.back_anti now _ _ le
  have windowStart := early (d := threshold.window) (Nat.le_max_left _ _)
  have recoveryStart := early (d := threshold.recovery) (Nat.le_max_right _ _)
  rw [eq begins] at windowStart
  rw [eq quiet] at recoveryStart
  rcases Nat.le_total threshold.window.nanos threshold.recovery.nanos with le | le
  · have reach : threshold.reach = threshold.recovery := by
      simp [Threshold.reach, Nat.max_eq_right le]
    rw [reach] at windowStart recoveryStart ⊢
    exact ⟨quietStart, quiet, eq quiet ▸ windowStart, quietStart.le_refl⟩
  · have reach : threshold.reach = threshold.window := by
      simp [Threshold.reach, Nat.max_eq_left le]
    rw [reach] at windowStart recoveryStart ⊢
    exact ⟨start, begins, start.le_refl, eq begins ▸ recoveryStart⟩

theorem inWindow_inWindow (early : first ≤ start) :
    inWindow (inWindow signals first now) start now = inWindow signals start now := by
  rw [inWindow, inWindow, List.filter_filter, inWindow]
  refine List.filter_congr fun x _ ↦ ?_
  simp only [within, Bool.and_eq_left_iff_imp, Bool.and_eq_true, decide_eq_true_eq]
  exact fun dated ↦ ⟨dated.1, Instant.le_trans early dated.2⟩

theorem any_isFreshTrouble_inWindow (early : first ≤ quietStart) :
    (inWindow signals first now).any (isFreshTrouble quietStart now) =
      signals.any (isFreshTrouble quietStart now) := by
  rw [Bool.eq_iff_iff, List.any_eq_true, List.any_eq_true]
  constructor
  · rintro ⟨x, mem, fresh⟩
    exact ⟨x, (mem_inWindow.1 mem).1, fresh⟩
  · rintro ⟨x, mem, fresh⟩
    obtain ⟨-, late, dated⟩ := isFreshTrouble_iff.1 fresh
    have inside := Instant.le_of_lt (Instant.lt_of_le_of_lt early late)
    exact ⟨x, mem_inWindow.2 ⟨mem, inside, dated⟩, fresh⟩

/-- The state hangs on the signals in no order. -/
theorem evaluate_perm (perm : s.Perm t) :
    evaluate s previous threshold now = evaluate t previous threshold now := by
  have empty : s.isEmpty = t.isEmpty := perm.isEmpty_eq
  have counted (start : Instant) : (inWindow s start now).Perm (inWindow t start now) :=
    perm.filter _
  have vacant (start : Instant) : (inWindow s start now).isEmpty = (inWindow t start now).isEmpty :=
    (counted start).isEmpty_eq
  have counts (start : Instant) (severity : Severity) :
      count (inWindow s start now) severity = count (inWindow t start now) severity :=
    (counted start).countP_eq _
  have fresh (quietStart : Instant) : s.any (isFreshTrouble quietStart now) =
      t.any (isFreshTrouble quietStart now) := perm.any_eq
  simp only [evaluate, empty, vacant, counts, fresh]

/-- Trouble comes from a signal of trouble within the longer span. -/
theorem exists_of_verdict
    (elevated : (verdict threshold previous (inWindow signals start now)
      (signals.any (isFreshTrouble quietStart now))).isElevated = true)
    (windowEarly : first ≤ start) (recoveryEarly : first ≤ quietStart) :
    ∃ x ∈ signals, x.severity ≠ .info ∧ first ≤ x.occurredAt ∧ x.occurredAt ≤ now := by
  have counted (severity : Severity) (bad : severity ≠ .info) {n : Nat} (pos : 0 < n)
      (enough : n ≤ count (inWindow signals start now) severity) :
      ∃ x ∈ signals, x.severity ≠ .info ∧ first ≤ x.occurredAt ∧ x.occurredAt ≤ now := by
    obtain ⟨x, mem, rfl, inside, dated⟩ := exists_of_count_pos (Nat.lt_of_lt_of_le pos enough)
    exact ⟨x, mem, bad, Instant.le_trans windowEarly inside, dated⟩
  unfold verdict at elevated
  split at elevated
  · cases elevated
  split at elevated
  · exact counted .critical nofun threshold.critical_pos ‹_›
  split at elevated
  · exact counted .warning nofun threshold.degraded_pos ‹_›
  split at elevated
  · rename_i held
    obtain ⟨x, mem, fresh⟩ := List.any_eq_true.1 held.2
    obtain ⟨bad, late, dated⟩ := isFreshTrouble_iff.1 fresh
    exact ⟨x, mem, bad, Instant.le_of_lt (Instant.lt_of_le_of_lt recoveryEarly late), dated⟩
  · cases elevated

/-- A critical state comes from enough critical signals or from the state before. -/
theorem critical_of_verdict {counted : List Signal} {fresh : Bool}
    (critical : verdict threshold previous counted fresh = .critical) :
    threshold.critical ≤ count counted .critical ∨ previous = .critical := by
  unfold verdict at critical
  split at critical
  · cases critical
  split at critical
  · exact .inl ‹_›
  split at critical
  · cases critical
  split at critical
  · exact .inr critical
  · cases critical

/-- The state of a component at `now`, of which the window begins at `start`, hangs on nothing but
the signals from `first` on. -/
structure HangsOn (threshold : Threshold) (previous : ComponentState) (start first now : Instant) :
    Prop where
  /-- The same signals from `first` to `now`, in any order, give the same state. -/
  same {s t : List Signal} (perm : (inWindow s first now).Perm (inWindow t first now)) :
    ∃ state, evaluate s previous threshold now = some state ∧
      evaluate t previous threshold now = some state
  /-- All other signals may be dropped. -/
  pruned (s : List Signal) :
    evaluate (inWindow s first now) previous threshold now = evaluate s previous threshold now
  /-- A component in trouble has a signal of trouble among them. -/
  trouble {s : List Signal} {state : ComponentState}
    (found : evaluate s previous threshold now = some state) (elevated : state.isElevated = true) :
    ∃ x ∈ s, x.severity ≠ .info ∧ first ≤ x.occurredAt ∧ x.occurredAt ≤ now
  /-- A critical component has enough critical signals in the window or was critical before. -/
  critical {s : List Signal} (found : evaluate s previous threshold now = some .critical) :
    threshold.critical ≤ count (inWindow s start now) .critical ∨ previous = .critical

/-- Where both spans lead back into the calendar, so does the longer one, and the state of a
component hangs on the signals within it. -/
theorem hangsOn_reach (begins : now.back? threshold.window = some start)
    (quiet : now.back? threshold.recovery = some quietStart) (previous : ComponentState) :
    ∃ first, now.back? threshold.reach = some first ∧
      HangsOn threshold previous start first now := by
  obtain ⟨first, reach, windowEarly, recoveryEarly⟩ := exists_reach begins quiet
  have pruned (s : List Signal) : evaluate (inWindow s first now) previous threshold now =
      evaluate s previous threshold now := by
    rw [evaluate_eq begins quiet, evaluate_eq begins quiet, inWindow_inWindow windowEarly,
      any_isFreshTrouble_inWindow recoveryEarly]
  refine ⟨first, reach, ?_, pruned, ?_, ?_⟩
  · intro s t perm
    have same : evaluate (inWindow s first now) previous threshold now =
        evaluate (inWindow t first now) previous threshold now := evaluate_perm perm
    rw [pruned, pruned] at same
    exact ⟨_, evaluate_eq begins quiet, same ▸ evaluate_eq begins quiet⟩
  · intro s state found elevated
    rw [evaluate_eq begins quiet] at found
    cases found
    exact exists_of_verdict elevated windowEarly recoveryEarly
  · intro s found
    rw [evaluate_eq begins quiet] at found
    exact critical_of_verdict (Option.some.inj found)

/-! ### A window that is shorter than the span of quiet -/

/-- Two signals decide, within a minute; quiet takes two minutes. -/
def twoEach : Threshold :=
  ⟨2, 2, ⟨60000000000⟩, ⟨120000000000⟩, by decide, by decide, by decide, by decide, by decide,
    by decide⟩

def epoch : Instant := .ofNanos 0

def minuteBefore : Instant := .ofNanos (-60000000000)

def twoMinutesBefore : Instant := .ofNanos (-120000000000)

/-- What goes back two minutes is all that counts, though the window is a minute long. -/
theorem hangsOn_twoEach : epoch.back? twoEach.window = some minuteBefore ∧
    epoch.back? twoEach.recovery = some twoMinutesBefore ∧
    ∃ first, epoch.back? twoEach.reach = some first ∧
      HangsOn twoEach .critical minuteBefore first epoch := by
  have begins : epoch.back? twoEach.window = some minuteBefore := by decide
  have quiet : epoch.back? twoEach.recovery = some twoMinutesBefore := by decide
  exact ⟨begins, quiet, hangsOn_reach begins quiet .critical⟩

/-! ## Fresh trouble -/

/-- The warnings in the window reach their number, and the critical signals do not. -/
def OnlyWarned (signals : List Signal) (threshold : Threshold) (start now : Instant) : Prop :=
  count (inWindow signals start now) .critical < threshold.critical ∧
    threshold.degraded ≤ count (inWindow signals start now) .warning

/-- With a signal in the window and trouble that is fresh, a component in trouble stays in trouble.
A critical one stays critical unless there are warnings enough and too few critical signals, which
make it degraded; a degraded one becomes critical if there are critical signals enough. -/
theorem evaluate_of_fresh (begins : now.back? threshold.window = some start)
    (quiet : now.back? threshold.recovery = some quietStart)
    (inside : ∃ x ∈ signals, start ≤ x.occurredAt ∧ x.occurredAt ≤ now)
    (fresh : ∃ x ∈ signals, x.severity ≠ .info ∧ quietStart < x.occurredAt ∧ x.occurredAt ≤ now) :
    (¬ OnlyWarned signals threshold start now →
      evaluate signals .critical threshold now = some .critical) ∧
    (OnlyWarned signals threshold start now →
      evaluate signals .critical threshold now = some .degraded) ∧
    (evaluate signals .degraded threshold now = some .critical ∨
      evaluate signals .degraded threshold now = some .degraded) := by
  obtain ⟨x, mem, dated⟩ := inside
  obtain ⟨y, there, recent⟩ := fresh
  have counted : inWindow signals start now ≠ [] :=
    List.ne_nil_of_mem (mem_inWindow.2 ⟨mem, dated⟩)
  have going : signals.any (isFreshTrouble quietStart now) = true :=
    List.any_eq_true.2 ⟨y, there, isFreshTrouble_iff.2 recent⟩
  rw [evaluate_eq begins quiet, evaluate_eq begins quiet, going]
  simp only [verdict, if_neg counted, OnlyWarned]
  by_cases critical : threshold.critical ≤ count (inWindow signals start now) .critical
  · have enough := Nat.not_lt.2 critical
    simp [critical, enough]
  · have few := Nat.lt_of_not_le critical
    by_cases degraded : threshold.degraded ≤ count (inWindow signals start now) .warning
    · simp [critical, few, degraded]
    · simp [critical, degraded, ComponentState.isElevated]

/-- One critical signal lies within the span of quiet, and a good one within the window. -/
def lull : List Signal := [⟨.critical, .ofNanos (-90000000000)⟩, ⟨.info, epoch⟩]

/-- It holds the state of a component that was in trouble. -/
theorem evaluate_lull :
    (epoch.back? twoEach.window = some minuteBefore ∧
      epoch.back? twoEach.recovery = some twoMinutesBefore ∧
      (∃ x ∈ lull, minuteBefore ≤ x.occurredAt ∧ x.occurredAt ≤ epoch) ∧
      ∃ x ∈ lull, x.severity ≠ .info ∧ twoMinutesBefore < x.occurredAt ∧ x.occurredAt ≤ epoch) ∧
    ¬ OnlyWarned lull twoEach minuteBefore epoch ∧
    evaluate lull .critical twoEach epoch = some .critical := by
  have begins : epoch.back? twoEach.window = some minuteBefore := by decide
  have quiet : epoch.back? twoEach.recovery = some twoMinutesBefore := by decide
  have inside : ∃ x ∈ lull, minuteBefore ≤ x.occurredAt ∧ x.occurredAt ≤ epoch := by decide
  have fresh : ∃ x ∈ lull, x.severity ≠ .info ∧ twoMinutesBefore < x.occurredAt ∧
      x.occurredAt ≤ epoch := by decide
  have few : ¬ OnlyWarned lull twoEach minuteBefore epoch := by
    unfold OnlyWarned
    decide
  exact ⟨⟨begins, quiet, inside, fresh⟩, few, (evaluate_of_fresh begins quiet inside fresh).1 few⟩

/-- A critical signal within the span of quiet, and two warnings within the window. -/
def grumble : List Signal :=
  [⟨.critical, .ofNanos (-90000000000)⟩, ⟨.warning, .ofNanos (-1000000000)⟩, ⟨.warning, epoch⟩]

/-- They make a critical component degraded, though all three are fresh. -/
theorem evaluate_grumble : epoch.back? twoEach.window = some minuteBefore ∧
    epoch.back? twoEach.recovery = some twoMinutesBefore ∧
    (∃ x ∈ grumble, minuteBefore ≤ x.occurredAt ∧ x.occurredAt ≤ epoch) ∧
    (∃ x ∈ grumble, x.severity ≠ .info ∧ twoMinutesBefore < x.occurredAt ∧
      x.occurredAt ≤ epoch) ∧
    evaluate grumble .critical twoEach epoch = some .degraded := by
  decide

end State

end Cascade
