import Cascade.Proofs.IdMap
import Cascade.Proofs.Incident.Book
import Cascade.Proofs.Incident.Filing
import Cascade.Proofs.Uuid
import Cascade.Store.Backend
import Mathlib

/-!
# What is written into a row

The columns of the durable tables hold numbers and texts.  An instant fits its column if it is no
leap second and a signed 64-bit word holds its nanoseconds, and a text fits if no zero character is
in it.  What fits is written without failure, and reading the row gives it back as it was:
`find_signalRows`, `loadStates_stateRows`, `exists_loadActive` and `readAlerts_alertRows` say so of
whole tables.
-/

namespace Cascade

namespace Time.Instant

/-- An instant that fits its column. -/
structure Storable (t : Instant) : Prop where
  /-- It is no leap second. -/
  regular : t.isLeap = false
  /-- It is not too early for a word. -/
  least : wordMin ≤ t.toNanos
  /-- It is not too late for a word. -/
  greatest : t.toNanos ≤ wordMax

namespace Storable

variable {a b t : Instant}

theorem nanos_lt (h : t.Storable) : t.nanos < 1000000000 := by simpa [isLeap] using h.regular

theorem ofNanos_toNanos (h : t.Storable) : ofNanos t.toNanos = t :=
  Instant.ofNanos_toNanos h.nanos_lt

theorem toWord? (h : t.Storable) : t.toWord? = some t.toNanos := if_pos ⟨h.least, h.greatest⟩

/-- Outside leap seconds instants are ordered as their nanoseconds are. -/
theorem toNanos_le_iff (ha : a.Storable) (hb : b.Storable) : a.toNanos ≤ b.toNanos ↔ a ≤ b := by
  have := ha.nanos_lt
  have := hb.nanos_lt
  rw [le_def, toNanos, toNanos]
  omega

end Storable

end Time.Instant

namespace Time.Instant

/-- The instant as it comes back from a column. -/
def reread (t : Instant) : Instant := ofNanos t.toNanos

@[simp] theorem toNanos_reread (t : Instant) : t.reread.toNanos = t.toNanos := toNanos_ofNanos _

@[simp] theorem reread_reread (t : Instant) : t.reread.reread = t.reread := by
  rw [reread, toNanos_reread, reread]

end Time.Instant

def Text.Storable (s : String) : Prop := '\x00' ∉ s.toList

/-- A signal that fits a row. -/
structure SignalRecord.Storable (r : SignalRecord) : Prop where
  occurredAt : r.signal.occurredAt.Storable
  ingestedAt : r.ingestedAt.Storable
  source : Text.Storable r.source
  key : ∀ k, r.key = some k → Text.Storable k

/-- An incident that fits a row. -/
structure Incident.Storable (i : Incident) : Prop where
  startedAt : i.startedAt.Storable
  resolvedAt : ∀ t, i.resolvedAt = some t → t.Storable

/-- The incident as it comes back from its row. -/
def Incident.reread (i : Incident) : Incident :=
  { i with startedAt := i.startedAt.reread, resolvedAt := i.resolvedAt.map Time.Instant.reread }

theorem Incident.reread_reread (i : Incident) : i.reread.reread = i.reread := by
  simp [reread, Function.comp_def]

/-- An incident that fits its row comes back as it was. -/
theorem Incident.Storable.reread_eq {i : Incident} (h : i.Storable) : i.reread = i := by
  obtain ⟨id, root, startedAt, resolvedAt, status⟩ := i
  have began : startedAt.reread = startedAt := h.startedAt.ofNanos_toNanos
  cases resolvedAt with
  | none => rw [reread, began, Option.map_none]
  | some t =>
    have ended : t.reread = t := (h.resolvedAt t rfl).ofNanos_toNanos
    rw [reread, began, Option.map_some, ended]

/-- The record of an alert that fits a row. -/
structure AlertRecord.Storable (r : AlertRecord) : Prop where
  sentAt : r.sentAt.Storable
  failure : ∀ m, r.failure = some m → Text.Storable m

namespace Store.Tables

open Time

/-! ### Columns -/

theorem instantColumn_eq {t : Instant} (h : t.Storable) : instantColumn t = .ok t.toNanos := by
  rw [instantColumn, h.toWord?]

theorem optInstantColumn_eq {o : Option Instant} (h : ∀ t, o = some t → t.Storable) :
    optInstantColumn o = .ok (o.map Instant.toNanos) := by
  cases o with
  | none => rfl
  | some t =>
    rw [optInstantColumn, instantColumn_eq (h t rfl)]
    rfl

theorem textColumn_eq {s : String} (h : Text.Storable s) : textColumn s = .ok s := by
  have free : ¬ s.toList.any (· = '\x00') = true := by simpa [Text.Storable] using h
  rw [textColumn, if_neg free]

@[simp] theorem readId_toText (id : Uuid) : readId id.toText = .ok id := by
  rw [readId, Uuid.ofText?_toText]

theorem of_instantColumn {t : Instant} {n : Int} (h : instantColumn t = .ok n) :
    n = t.toNanos := by
  unfold instantColumn Instant.toWord? at h
  split at h
  · rename_i held
    cases h
    split at held
    · exact (Option.some.inj held).symm
    · cases held
  · cases h

theorem of_textColumn {s s' : String} (h : textColumn s = .ok s') : s' = s := by
  unfold textColumn at h
  split at h
  · cases h
  · exact (Except.ok.inj h).symm

theorem of_optInstantColumn {o : Option Instant} {n : Option Int}
    (h : optInstantColumn o = .ok n) : n = o.map Instant.toNanos := by
  cases o with
  | none => exact (Except.ok.inj h).symm
  | some t =>
    obtain ⟨n, column, rfl⟩ := exists_of_map_eq_ok h
    rw [of_instantColumn column]
    rfl

/-- A refusal tells of an instant that does not fit its column. -/
theorem of_instantColumn_eq_error {t : Instant} {e : StoreError}
    (h : instantColumn t = .error e) : t.toWord? = none ∧ e = .timestampOutOfRange t := by
  unfold instantColumn at h
  split at h
  · cases h
  · rename_i beyond
    cases h
    exact ⟨beyond, rfl⟩

theorem of_optInstantColumn_eq_error {o : Option Instant} {e : StoreError}
    (h : optInstantColumn o = .error e) :
    ∃ t, o = some t ∧ t.toWord? = none ∧ e = .timestampOutOfRange t := by
  cases o with
  | none => cases h
  | some t => exact ⟨t, rfl, of_instantColumn_eq_error (of_map_eq_error h)⟩

/-! ### Rows -/

def signalRow (r : SignalRecord) : SignalRow :=
  ⟨none, r.component.toText, r.signal.severity.code, r.source, r.signal.occurredAt.toNanos,
    r.ingestedAt.toNanos, r.key⟩

def stateRow (e : ComponentId × ComponentState) : StateRow := ⟨e.1.toText, e.2.code⟩

def incidentRow (i : Incident) : IncidentRow :=
  ⟨i.id.toText, i.root.toText, i.startedAt.toNanos, i.resolvedAt.map Instant.toNanos, i.status.code⟩

def alertRow (r : AlertRecord) : AlertRow :=
  ⟨r.incident.toText, r.kind, r.sentAt.toNanos, r.channel, r.failure⟩

/-- The number in the row of an incident tells whether it is open. -/
theorem isOpen_iff_code {i : Incident} :
    i.isOpen = true ↔ i.status.code = IncidentStatus.ongoing.code := by
  cases status : i.status with
  | ongoing => simp [Incident.isOpen, status]
  | resolved => simp [Incident.isOpen, status, IncidentStatus.code]

theorem readSignal_signalRow {r : SignalRecord} (h : r.Storable) :
    readSignal (signalRow r) = .ok r.signal := by
  simp only [readSignal, signalRow, readCode, Severity.ofCode?_code, h.occurredAt.ofNanos_toNanos]
  rfl

theorem readState_stateRow (e : ComponentId × ComponentState) : readState (stateRow e) = .ok e := by
  simp only [readState, stateRow, readCode, ComponentState.ofCode?_code, readId_toText]
  rfl

theorem incidentRow_reread (i : Incident) : incidentRow i.reread = incidentRow i := by
  simp [incidentRow, Incident.reread, Function.comp_def]

theorem readIncident_row (i : Incident) : readIncident (incidentRow i) = .ok i.reread := by
  simp only [readIncident, incidentRow, readCode, IncidentStatus.ofCode?_code, readId_toText,
    Option.map_map]
  rfl

theorem readAlert_alertRow {r : AlertRecord} (h : r.Storable) :
    readAlert (alertRow r) = .ok r := by
  simp only [readAlert, alertRow, readId_toText, h.sentAt.ofNanos_toNanos]
  rfl

/-! ### Writing -/

variable {t : Tables}

theorem append_eq {r : SignalRecord} (h : r.Storable) :
    t.append r = .ok (if r.key.isSome ∧ t.signals.any (·.key = r.key) then (.duplicate, t)
      else (.inserted, { t with signals := t.signals ++ [signalRow r] })) := by
  unfold append
  simp only [instantColumn_eq h.occurredAt, instantColumn_eq h.ingestedAt, textColumn_eq h.source,
    bind, Except.bind]
  cases key : r.key with
  | none => simp [signalRow, key, pure, Except.pure]
  | some k =>
    simp only [textColumn_eq (h.key k key), Except.map_ok, pure, Except.pure]
    split
    · rfl
    · simp [signalRow, key]

theorem addAlert_eq {rows : List AlertRow} {r : AlertRecord} (h : r.Storable) :
    addAlert rows r = .ok (rows ++ [alertRow r]) := by
  rw [addAlert, instantColumn_eq h.sentAt]
  cases failure : r.failure with
  | none => simp [alertRow, failure, bind, Except.bind, pure, Except.pure]
  | some m =>
    simp [alertRow, failure, textColumn_eq (h.failure m failure), bind, Except.bind, pure,
      Except.pure]

theorem addAlerts_eq {records : List AlertRecord} (h : ∀ r ∈ records, r.Storable)
    (rows : List AlertRow) :
    records.foldlM addAlert rows = .ok (rows ++ records.map alertRow) := by
  induction records generalizing rows with
  | nil =>
    rw [List.map_nil, List.append_nil]
    rfl
  | cons r l ih =>
    obtain ⟨first, rest⟩ := List.forall_mem_cons.1 h
    rw [List.foldlM_cons, addAlert_eq first, List.map_cons]
    show l.foldlM addAlert _ = _
    rw [ih rest, List.append_assoc]
    rfl

/-! ### Whole tables -/

/-- Where every row is read without failure, so are all. -/
theorem mapM_map_eq_ok {ε α β γ : Type} {row : α → β} {read : β → Except ε γ} {value : α → γ}
    {l : List α} (h : ∀ a ∈ l, read (row a) = .ok (value a)) :
    (l.map row).mapM read = .ok (l.map value) := by
  induction l with
  | nil => rfl
  | cons a l ih =>
    obtain ⟨first, rest⟩ := List.forall_mem_cons.1 h
    rw [List.map_cons, List.mapM_cons, first, ih rest]
    rfl

/-- The signals of a component are found by their dates, as they are in a log. -/
theorem find_signalRows {l : SignalLog} (storable : ∀ r ∈ l.records, r.Storable)
    (rows : t.signals = l.records.map signalRow) (id : ComponentId) :
    t.find id = .ok (l.find id) := by
  have own : t.signalRows id = (l.of id).map signalRow := by
    rw [signalRows, rows, List.filter_map, SignalLog.of]
    congr 1
    refine List.filter_congr fun r _ ↦ ?_
    simp [signalRow, Uuid.toText_inj]
  have fits : ∀ r ∈ l.of id, r.Storable :=
    fun r hr ↦ storable r (List.mem_of_mem_filter hr)
  have dated : ∀ a ∈ l.of id, ∀ b ∈ l.of id,
      SignalLog.notLater a.signal b.signal =
        decide ((signalRow a).occurredAt ≤ (signalRow b).occurredAt) := by
    intro a ha b hb
    exact decide_eq_decide.2 ((fits a ha).occurredAt.toNanos_le_iff (fits b hb).occurredAt).symm
  rw [find, own, ← List.map_mergeSort dated, mapM_map_eq_ok fun r hr ↦
    readSignal_signalRow (fits r (List.mem_mergeSort.1 hr)),
    List.map_mergeSort (s := SignalLog.notLater) fun _ _ _ _ ↦ rfl]
  rfl

theorem loadStates_stateRows {l : List (ComponentId × ComponentState)} {states : StateMap}
    (lists : IdMap.Lists l states) (rows : t.states = l.map stateRow) :
    t.loadStates = .ok states := by
  have read : ∀ e ∈ l, readState (stateRow e) = .ok (id e) := fun e _ ↦ readState_stateRow e
  rw [loadStates, rows, mapM_map_eq_ok read, List.map_id]
  exact congrArg Except.ok lists.ofList_eq

/-- The rows of open incidents, in whatever order. -/
theorem exists_openRows {l : List Incident} (rows : t.incidents = l.map incidentRow) :
    ∃ k : List Incident, (∀ i, i ∈ k ↔ i ∈ l ∧ i.isOpen = true) ∧
      t.openRows = k.map incidentRow := by
  have ongoing : ∀ i : Incident,
      decide ((incidentRow i).status = IncidentStatus.ongoing.code) = i.isOpen := by
    intro i
    rw [Bool.eq_iff_iff, decide_eq_true_eq, isOpen_iff_code]
    rfl
  refine ⟨(l.filter (·.isOpen)).mergeSort fun x y ↦
    !((incidentRow y).root < (incidentRow x).root), fun i ↦ ?_, ?_⟩
  · rw [List.mem_mergeSort, List.mem_filter]
  · rw [List.map_mergeSort (s := fun a b : IncidentRow ↦ !(b.root < a.root)) fun _ _ _ _ ↦ rfl,
      openRows, rows, List.filter_map]
    congr 2
    exact List.filter_congr fun i _ ↦ ongoing i

/-- The open ones of tidy incidents are loaded by their roots, if they come back as they were. -/
theorem exists_loadActive {l : List Incident} (rows : t.incidents = l.map incidentRow)
    (reread : ∀ i ∈ l, i.reread = i) (tidy : Filing.Tidy l) :
    ∃ active, t.loadActive = .ok active ∧
      ∀ root i, active.get? root = some i ↔ i ∈ l ∧ i.isOpen = true ∧ i.root = root := by
  obtain ⟨k, mem_k, ongoing⟩ := exists_openRows rows
  have readable : ∀ i ∈ k, readIncident (incidentRow i) = .ok (id i) := by
    intro i hi
    rw [readIncident_row, reread i ((mem_k i).1 hi).1, id]
  refine ⟨_, ?_, fun root i ↦ tidy.get?_ofList mem_k⟩
  rw [loadActive, ongoing, mapM_map_eq_ok readable, List.map_id]
  rfl

theorem readAlerts_alertRows {l : List AlertRecord} (storable : ∀ r ∈ l, r.Storable)
    (rows : t.alerts = l.map alertRow) : t.alerts.mapM readAlert = .ok l := by
  have read : ∀ r ∈ l, readAlert (alertRow r) = .ok (id r) :=
    fun r hr ↦ readAlert_alertRow (storable r hr)
  rw [rows, mapM_map_eq_ok read, List.map_id]

end Store.Tables

end Cascade
