import Cascade.Proofs.Settings.Resolution
import Cascade.Proofs.Time.Instant

/-!
# Spans that reach back before the calendar

A component has no state at an instant from which one of its spans leads out of the calendar, if
that span is asked for (`State.evaluate_eq_none_iff`).  Settings are accepted with spans up to
2^63 - 1 milliseconds, which is longer than the calendar.

`Topology.alwaysJudges_iff` says which settings that are accepted give every component a state at
every instant that a signed 64-bit word of nanoseconds holds: those without components, and those
whose two spans are at most `longestReach`.
-/

namespace Cascade

open Time

namespace State

variable {signals : List Signal} {previous : ComponentState} {threshold : Threshold}
  {now start : Instant}

/-- The signals since an instant decide nothing, though there are some. -/
structure Undecided (signals : List Signal) (threshold : Threshold) (start now : Instant) :
    Prop where
  some : inWindow signals start now ≠ []
  critical : count (inWindow signals start now) .critical < threshold.critical
  degraded : count (inWindow signals start now) .warning < threshold.degraded

/-- A component has no state where its window begins before the calendar, or where its span of quiet
does and is asked for. -/
theorem evaluate_eq_none_iff : evaluate signals previous threshold now = none ↔
    signals ≠ [] ∧ (now.back? threshold.window = none ∨
      ∃ start, now.back? threshold.window = some start ∧
        Undecided signals threshold start now ∧ previous.isElevated = true ∧
          now.back? threshold.recovery = none) := by
  by_cases silent : signals = []
  · simp [evaluate, silent]
  cases begins : now.back? threshold.window with
  | none => simp [evaluate, silent, begins]
  | some start =>
    have open_ : (signals ≠ [] ∧ ((some start : Option Instant) = none ∨ ∃ start',
        some start = some start' ∧ Undecided signals threshold start' now ∧
          previous.isElevated = true ∧ now.back? threshold.recovery = none)) ↔
        Undecided signals threshold start now ∧ previous.isElevated = true ∧
          now.back? threshold.recovery = none := by
      simp [silent]
    rw [open_]
    by_cases vacant : inWindow signals start now = []
    · have decided : ¬ Undecided signals threshold start now := fun u ↦ u.some vacant
      simp [evaluate, silent, begins, vacant, decided]
    by_cases critical : threshold.critical ≤ count (inWindow signals start now) .critical
    · have decided : ¬ Undecided signals threshold start now := fun u ↦
        Nat.not_le.2 u.critical critical
      simp [evaluate, silent, begins, vacant, critical, decided]
    by_cases degraded : threshold.degraded ≤ count (inWindow signals start now) .warning
    · have decided : ¬ Undecided signals threshold start now := fun u ↦
        Nat.not_le.2 u.degraded degraded
      simp [evaluate, silent, begins, vacant, critical, degraded, decided]
    have undecided : Undecided signals threshold start now :=
      ⟨vacant, Nat.lt_of_not_le critical, Nat.lt_of_not_le degraded⟩
    cases elevated : previous.isElevated with
    | false => simp [evaluate, silent, begins, vacant, critical, degraded, elevated]
    | true =>
      cases quiet : now.back? threshold.recovery with
      | none =>
        simp [evaluate, silent, begins, vacant, critical, degraded, elevated, quiet, undecided]
      | some quietStart =>
        simp [evaluate, silent, begins, vacant, critical, degraded, elevated, quiet]

end State

/-! ### How far a span may reach -/

/-- The most milliseconds that lead back into the calendar from every instant that a word holds. -/
def longestReach : Nat := ((Instant.wordMin - Instant.calendarStart) / 1000000).toNat

/-- The first instant that a word holds. -/
def firstInstant : Instant := .ofNanos Instant.wordMin

theorem firstInstant_held : firstInstant.toWord?.isSome = true := by decide

/-- A span leads back into the calendar from every instant that a word holds exactly if it is not
too long. -/
theorem le_longestReach_iff {n : Nat} : n ≤ longestReach ↔
    ∀ now : Instant, now.toWord?.isSome = true → now.back? (.ofMillis n) ≠ none := by
  have start : Instant.calendarStart = -96465292 * 86400 * 1000000000 := by
    rw [Instant.calendarStart, Instant.firstDay_eq]
  have nanos : ((Span.ofMillis n).nanos : Int) = n * 1000000 := by simp [Span.ofMillis]
  have bound : n ≤ longestReach ↔
      Instant.calendarStart ≤ Instant.wordMin - (Span.ofMillis n).nanos := by
    rw [longestReach, start, Instant.wordMin, nanos]
    omega
  rw [bound]
  constructor
  · intro le now held
    have least := (Instant.held_iff.1 held).1
    rw [Ne, Instant.back?_eq_none_iff held]
    omega
  · intro inside
    have first := inside firstInstant firstInstant_held
    rw [Ne, Instant.back?_eq_none_iff firstInstant_held, firstInstant,
      Instant.toNanos_ofNanos] at first
    omega

namespace Topology

open Settings

/-- Every component has a state at every instant that a word holds, whatever its signals and its
state before. -/
def AlwaysJudges (t : Topology) : Prop :=
  ∀ {id th}, t.thresholds.get? id = some th → ∀ signals previous (now : Instant),
    now.toWord?.isSome = true → (State.evaluate signals previous th now).isSome = true

variable {s : Settings} {t : Topology} {p : Spans} {id : ComponentId} {th : Threshold}

/-- One good signal at an instant decides nothing. -/
theorem undecided_info {start now : Instant} (th : Threshold) (begins : start ≤ now) :
    State.Undecided [⟨.info, now⟩] th start now := by
  have counted : State.inWindow [⟨.info, now⟩] start now = [⟨.info, now⟩] := by
    simp [State.inWindow, State.within, begins, now.le_refl]
  refine ⟨?_, ?_, ?_⟩
  · rw [counted]
    exact List.cons_ne_nil _ _
  · rw [counted]
    exact th.critical_pos
  · rw [counted]
    exact th.degraded_pos

/-- A component that always has a state has spans that are not too long. -/
theorem le_longestReach_of_isSome {w q : Nat} (window : th.window = .ofMillis w)
    (recovery : th.recovery = .ofMillis q)
    (judged : ∀ signals previous (now : Instant), now.toWord?.isSome = true →
      (State.evaluate signals previous th now).isSome = true) :
    w ≤ longestReach ∧ q ≤ longestReach := by
  have stays : w ≤ longestReach := le_longestReach_iff.2 fun now held out ↦ by
    have some := judged [⟨.info, now⟩] .unknown now held
    rw [State.evaluate_eq_none_iff.2 ⟨List.cons_ne_nil _ _, .inl (window ▸ out)⟩] at some
    cases some
  refine ⟨stays, le_longestReach_iff.2 fun now held out ↦ ?_⟩
  -- the window begins within the calendar, and the signal leaves the question of recovery open
  obtain ⟨start, begins⟩ := Option.ne_none_iff_exists'.1 (le_longestReach_iff.1 stays now held)
  have some := judged [⟨.info, now⟩] .critical now held
  rw [State.evaluate_eq_none_iff.2 ⟨List.cons_ne_nil _ _, .inr ⟨start, window ▸ begins,
    undecided_info th (Instant.start_le begins), rfl, recovery ▸ out⟩⟩] at some
  cases some

/-- Settings that are accepted give every component a state at every instant that a word holds
exactly if they declare no component or ask for no span that is too long. -/
theorem alwaysJudges_iff (resolved : resolve s = .ok t) : ∃ p, s.evaluation.resolve = .ok p ∧
    (t.AlwaysJudges ↔
      t.roster = [] ∨ (p.window ≤ longestReach ∧ p.recoveryWindow ≤ longestReach)) := by
  obtain ⟨p, resolves⟩ := resolve_eq_ok_iff.1 resolved
  refine ⟨p, resolves.spans, fun judged ↦ ?_, ?_⟩
  · cases roster : t.roster with
    | nil => exact .inl rfl
    | cons name rest =>
      have declared : name ∈ t.roster := roster ▸ List.mem_cons_self
      obtain ⟨th, known⟩ := IdMap.mem_iff.1 (resolves.mem_thresholds declared)
      obtain ⟨_, -, -, made⟩ := resolves.of_threshold known
      obtain ⟨window, recovery⟩ := of_thresholdOf made
      exact .inr (le_longestReach_of_isSome window recovery (judged known))
  · rintro few id th known signals previous now held
    obtain ⟨name, declared, -, made⟩ := resolves.of_threshold known
    obtain ⟨window, recovery⟩ := of_thresholdOf made
    obtain ⟨short, shortQuiet⟩ := few.resolve_left fun empty ↦ by simp [empty] at declared
    rw [Option.isSome_iff_ne_none, Ne, State.evaluate_eq_none_iff, window, recovery]
    rintro ⟨-, out | ⟨start, -, -, -, out⟩⟩
    · exact le_longestReach_iff.1 short now held out
    · exact le_longestReach_iff.1 shortQuiet now held out

/-- Settings with a window as long as they are accepted with. -/
def endless : Settings := { Settings.standard with
  evaluation := { Settings.standard.evaluation with window := "9223372036854775807ms" }
  components := ["db"]
  limits := .ofList [("db", ⟨1, 1⟩)] }

/-- They are accepted, and a critical signal at the epoch leaves their component without a state
then. -/
theorem not_alwaysJudges_endless : ∃ t th, resolve endless = .ok t ∧ ¬ t.AlwaysJudges ∧
    t.thresholds.get? (ComponentId.ofName "db") = some th ∧
    State.evaluate [⟨.critical, .ofNanos 0⟩] .unknown th (.ofNanos 0) = none := by
  have spans : endless.evaluation.resolve =
      .ok ⟨9223372036854775807, 120000, 500, 250⟩ := by decide +kernel
  have long : longestReach < 9223372036854775807 := by decide
  have accepted : (resolve endless).toOption.isSome = true := by decide +kernel
  cases resolved : resolve endless with
  | error e =>
    rw [resolved] at accepted
    cases accepted
  | ok t =>
    obtain ⟨p, resolves⟩ := resolve_eq_ok_iff.1 resolved
    cases spans.symm.trans resolves.spans
    have roster : declare [] endless.components = .ok ["db"] := by decide +kernel
    have declared : "db" ∈ t.roster := by
      rw [← Except.ok.inj (roster.symm.trans resolves.roster)]
      exact List.mem_singleton_self _
    obtain ⟨th, known⟩ := IdMap.mem_iff.1 (resolves.mem_thresholds declared)
    obtain ⟨_, -, -, made⟩ := resolves.of_threshold known
    refine ⟨t, th, rfl, ?_, known, ?_⟩
    · obtain ⟨p, eq, judges⟩ := alwaysJudges_iff resolved
      cases spans.symm.trans eq
      rw [judges]
      rintro (empty | ⟨short, -⟩)
      · rw [empty] at declared
        cases declared
      · exact Nat.not_le.2 long short
    · refine State.evaluate_eq_none_iff.2 ⟨List.cons_ne_nil _ _, .inl ?_⟩
      rw [(of_thresholdOf made).1]
      decide

end Topology

end Cascade
