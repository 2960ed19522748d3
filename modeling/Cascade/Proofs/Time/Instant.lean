import Cascade.Time.Instant

/-!
# Where going back leaves the calendar

Going back a span takes its nanoseconds off, in a leap second too (`toNanos_back`).  From an instant
whose nanoseconds a signed 64-bit word holds, it therefore leads out of the calendar exactly if it
leads before the calendar's first moment (`back?_eq_none_iff`).  A longer span leads no less far
back (`back_anti`).
-/

namespace Cascade.Time.Instant

/-- The nanoseconds from the epoch to the first moment of the calendar. -/
def calendarStart : Int := Date.firstDay * 86400 * 1000000000

theorem firstDay_eq : Date.firstDay = -96465292 := by decide

theorem lastDay_eq : Date.lastDay = 95026236 := by decide

variable {t : Instant} {d e : Span}

theorem toNanos_back (t : Instant) (d : Span) : (t.back d).toNanos = t.toNanos - d.nanos := by
  have bound := t.nanos_lt
  have whole : (d.nanos : Int) = d.seconds * 1000000000 + d.subsecond := by
    simp only [Span.seconds, Span.subsecond]
    omega
  have part : d.subsecond < 1000000000 := Nat.mod_lt _ (by decide)
  simp only [toNanos, back, isLeap, decide_eq_true_eq]
  split
  · simp only
    omega
  · split <;> split <;> simp only <;> omega

/-- Going back ends in a leap second only where it stays in that of the start. -/
theorem second_back_of_leap (leap : 1000000000 ≤ (t.back d).nanos) :
    (t.back d).second = t.second := by
  simp only [back, isLeap, decide_eq_true_eq] at leap ⊢
  split at leap
  · rename_i within_
    rw [dif_pos within_]
  · split at leap <;> simp only at leap <;> omega

/-- A longer span leads no less far back, from a leap second too. -/
theorem back_anti (le : d.nanos ≤ e.nanos) : t.back e ≤ t.back d := by
  have near := toNanos_back t d
  have far := toNanos_back t e
  have nearBound := (t.back d).nanos_lt
  have nearLeap := @second_back_of_leap t d
  have farLeap := @second_back_of_leap t e
  have before := le_def.1 (back_le t e)
  have beforeNear := le_def.1 (back_le t d)
  rw [le_def]
  simp only [toNanos] at near far
  omega

theorem held_iff : t.toWord?.isSome = true ↔ wordMin ≤ t.toNanos ∧ t.toNanos ≤ wordMax := by
  rw [toWord?]
  split <;> simp_all

theorem start_le {start : Instant} (h : t.back? d = some start) : start ≤ t := by
  simp only [back?, Option.ite_none_right_eq_some] at h
  obtain ⟨-, ⟨⟩⟩ := h
  exact back_le t d

/-- Going back leads out of the calendar exactly if it leads before its first moment. -/
theorem back?_eq_none_iff (held : t.toWord?.isSome = true) :
    t.back? d = none ↔ t.toNanos - d.nanos < calendarStart := by
  have bound := t.nanos_lt
  obtain ⟨least, greatest⟩ := held_iff.1 held
  have earlier := le_def.1 (back_le t d)
  have leap := @second_back_of_leap t d
  have start : calendarStart = -96465292 * 86400 * 1000000000 := by
    rw [calendarStart, firstDay_eq]
  have stays : t.back? d = none ↔ ¬ (Date.firstDay ≤ (t.back d).dayNumber ∧
      (t.back d).dayNumber ≤ Date.lastDay) := by
    simp [back?, dayInRange]
  rw [stays, ← toNanos_back, start, firstDay_eq, lastDay_eq, dayNumber]
  simp only [toNanos, wordMin, wordMax] at least greatest ⊢
  omega

end Cascade.Time.Instant
