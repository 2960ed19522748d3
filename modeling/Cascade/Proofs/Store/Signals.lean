import Cascade.Evaluation.Announced
import Cascade.Proofs.Alert.Delivery
import Cascade.Proofs.Store.Rows

/-!
# The signals that are kept

Either kind of store keeps signals in their order (`Backend.rows`).  A signal that is appended is
added last or is a duplicate, by its key alone (`Backend.appended_of_append`), and nothing that a
pass writes or announces adds or drops one (`rows_runAnnounced`).
-/

namespace Cascade

namespace Store

open Time

/-- Appending a signal that fits a row depends on whether a row has its key. -/
theorem Tables.append_eq_ok {t : Tables} {r : SignalRecord} {answer : AppendOutcome × Tables}
    (h : t.append r = .ok answer) :
    answer = if r.key.isSome ∧ t.signals.any (·.key = r.key) then (.duplicate, t)
      else (.inserted, { t with signals := t.signals ++ [Tables.signalRow r] }) := by
  unfold Tables.append at h
  simp only [bind_eq_ok_iff] at h
  obtain ⟨_, first, _, second, _, sent, h⟩ := h
  obtain rfl := Tables.of_instantColumn first
  obtain rfl := Tables.of_instantColumn second
  obtain rfl := Tables.of_textColumn sent
  unfold signalRow
  cases own : r.key with
  | none =>
    rw [own] at h
    cases h
    simp
  | some key =>
    rw [own] at h
    obtain ⟨_, found, rest⟩ := bind_eq_ok_iff.1 h
    obtain ⟨key', kept, rfl⟩ := exists_of_map_eq_ok found
    obtain rfl : key' = key := Tables.of_textColumn kept
    by_cases known : (some key').isSome = true ∧ t.signals.any (·.key = some key') = true
    · rw [if_pos known] at rest ⊢
      exact (Except.ok.inj rest).symm
    · rw [if_neg known] at rest ⊢
      exact (Except.ok.inj rest).symm

namespace Backend

/-- The signals that are kept, the first taken in first. -/
def rows : Backend → List SignalRow
  | memory m => m.log.records.map Tables.signalRow
  | durable t => t.signals

def add (r : SignalRecord) : Backend → Backend
  | memory m => memory { m with log := m.log.push r }
  | durable t => durable { t with signals := t.signals ++ [Tables.signalRow r] }

def keyCount (key : String) (b : Backend) : Nat := b.rows.countP (·.key = some key)

variable {b b' : Backend} {r : SignalRecord} {key : String}

@[simp] theorem rows_add : (b.add r).rows = b.rows ++ [Tables.signalRow r] := by
  cases b with
  | memory m => exact List.map_append
  | durable t => rfl

theorem keyCount_add :
    (b.add r).keyCount key = b.keyCount key + if r.key = some key then 1 else 0 := by
  simp [keyCount, Tables.signalRow]

/-- What appending a signal may come to. -/
inductive Appended (r : SignalRecord) (b : Backend) : AppendOutcome × Backend → Prop
  | duplicate {key : String} (own : r.key = some key) (known : 0 < b.keyCount key) :
      Appended r b (.duplicate, b)
  | inserted (new : ∀ key, r.key = some key → b.keyCount key = 0) :
      Appended r b (.inserted, b.add r)

theorem keyCount_pos_iff : 0 < b.keyCount key ↔ ∃ row ∈ b.rows, row.key = some key := by
  simp [keyCount, List.countP_pos_iff]

theorem refuses_iff {m : Memory} :
    m.log.refuses r = true ↔ ∃ key, r.key = some key ∧ 0 < (memory m).keyCount key := by
  unfold SignalLog.refuses
  simp only [keyCount_pos_iff, rows, List.mem_map, exists_exists_and_eq_and, Tables.signalRow]
  cases r.key with
  | none => simp
  | some key => simp [SignalLog.hasKey_iff]

/-- A signal that is appended stands last in the store, unless one with its key is kept. -/
theorem appended_of_append {answer : AppendOutcome × Backend} (h : b.append r = .ok answer) :
    Appended r b answer := by
  cases b with
  | memory m =>
    by_cases refused : m.log.refuses r = true
    · obtain ⟨key, own, known⟩ := refuses_iff.1 refused
      simp only [append, Memory.append, SignalLog.append, refused, if_true] at h
      cases h
      exact .duplicate own known
    · simp only [append, Memory.append, SignalLog.append, refused] at h
      cases h
      exact .inserted fun key own ↦ Nat.eq_zero_of_not_pos fun known ↦
        refused (refuses_iff.2 ⟨key, own, known⟩)
  | durable t =>
    obtain ⟨⟨outcome, t'⟩, appended, rfl⟩ := exists_of_map_eq_ok h
    have known : (r.key.isSome = true ∧ t.signals.any (·.key = r.key) = true) ↔
        ∃ key, r.key = some key ∧ 0 < (durable t).keyCount key := by
      simp only [keyCount_pos_iff, rows, List.any_eq_true, decide_eq_true_eq]
      cases r.key with
      | none => simp
      | some key => simp
    have eq := Tables.append_eq_ok appended
    split at eq
    · rename_i refused
      obtain ⟨key, own, known⟩ := known.1 refused
      cases eq
      exact .duplicate own known
    · rename_i taken
      cases eq
      exact .inserted fun key own ↦ Nat.eq_zero_of_not_pos fun count ↦
        taken (known.2 ⟨key, own, count⟩)

/-! ### What a pass writes -/

theorem rows_saveStates {states : StateMap} (h : b.saveStates states = .ok b') :
    b'.rows = b.rows := by
  cases b with
  | memory m =>
    obtain ⟨m', saved, rfl⟩ := exists_of_map_eq_ok h
    unfold Memory.saveStates at saved
    split at saved
    · cases saved
    · cases saved
      rfl
  | durable t =>
    cases h
    rfl

theorem rows_saveTransition {tr : Transition} (h : b.saveTransition tr = .ok b') :
    b'.rows = b.rows := by
  cases b with
  | memory m =>
    obtain ⟨m', saved, rfl⟩ := exists_of_map_eq_ok h
    unfold Memory.saveTransition at saved
    split at saved
    · cases saved
    · cases saved
      rfl
  | durable t =>
    obtain ⟨t', saved, rfl⟩ := exists_of_map_eq_ok h
    unfold Tables.saveTransition at saved
    simp only [bind_eq_ok_iff] at saved
    obtain ⟨_, -, _, -, eq⟩ := saved
    cases eq
    rfl

theorem rows_record {records : List AlertRecord} (h : b.record records = .ok b') :
    b'.rows = b.rows := by
  cases b with
  | memory m =>
    obtain ⟨m', saved, rfl⟩ := exists_of_map_eq_ok h
    unfold Memory.record at saved
    split at saved
    · cases saved
    · cases saved
      rfl
  | durable t =>
    obtain ⟨t', saved, rfl⟩ := exists_of_map_eq_ok h
    unfold Tables.record at saved
    simp only [bind_eq_ok_iff] at saved
    obtain ⟨_, -, eq⟩ := saved
    cases eq
    rfl

end Backend

end Store

/-! ### Passes -/

namespace Evaluation

open Store Alert

/-- A publisher leaves the signals that are kept alone. -/
def SparesSignals (p : Publisher (World Backend)) : Prop :=
  ∀ a w, (p a w).2.store.rows = w.store.rows

theorem sparesSignals_together {l : List (Publisher (World Backend))}
    (all : ∀ p ∈ l, SparesSignals p) : SparesSignals (together l) := by
  show Leaves (fun w : World Backend ↦ w.store.rows) (together l)
  exact leaves_together all

theorem rows_within (records : List AlertRecord) (w : World Backend) :
    (Recorder.within World.store World.withStore Backend.record records w).2.store.rows =
      w.store.rows := by
  unfold Recorder.within
  split
  · rename_i kept
    exact Backend.rows_record kept
  · rfl

theorem sparesSignals_recording : SparesSignals
    (recording (.within World.store World.withStore Backend.record)) := by
  show Leaves (fun w : World Backend ↦ w.store.rows) _
  exact leaves_recording rows_within

/-- The chat channel leaves the signals that are kept alone, as long as sending does. -/
theorem Telegram.sparesSignals_publisher
    {send : String → World Backend → Alert.Telegram.Outcome × World Backend}
    (spares : ∀ m w, (send m w).2.store.rows = w.store.rows) (writer : Alert.Telegram.Writer) :
    SparesSignals (Alert.Telegram.publisher send
      (.within World.store World.withStore Backend.record) writer) := by
  show Leaves (fun w : World Backend ↦ w.store.rows) _
  exact Alert.Telegram.leaves_publisher Alert.Telegram.isLawful_retrying spares rows_within writer

variable {setup : Setup} {fresh : ComponentId → IncidentId} {dirty : IdSet} {now : Time.Instant}
  {w : World Backend}

theorem rows_run (setup : Setup) (fresh : ComponentId → IncidentId) (dirty : IdSet)
    (now : Time.Instant) (w : World Backend) :
    (run (accessWithin Backend.access) setup fresh dirty now w).2.store.rows =
    w.store.rows := by
  unfold run commit
  split
  · rfl
  · rename_i r planned
    cases wrote : (accessWithin Backend.access).saveTransition r.transition w with
    | error e => rfl
    | ok w' =>
      obtain ⟨b, saved, rfl⟩ := exists_of_map_eq_ok wrote
      have first := Backend.rows_saveTransition saved
      dsimp only
      cases kept : (accessWithin Backend.access).saveStates r.effective (w.withStore b) with
      | error e => exact first
      | ok w'' =>
        obtain ⟨b', saved', rfl⟩ := exists_of_map_eq_ok kept
        exact (Backend.rows_saveStates saved').trans first

theorem rows_runAnnounced {publish : Publisher (World Backend)} (spares : SparesSignals publish) :
    (runAnnounced (accessWithin Backend.access) publish setup fresh dirty now w).2.store.rows =
      w.store.rows := by
  have same := rows_run setup fresh dirty now w
  unfold runAnnounced
  split
  · rename_i failed
    rw [failed] at same
    exact same
  · rename_i went
    rw [went] at same
    exact (spares _ _).trans same

end Evaluation

end Cascade
