import Cascade.Proofs.Store.Entries

/-!
# Tables that mirror what is kept within the program

Tables mirror a store within the program if their rows hold what it keeps and nothing else: signals
and records of alerts in their order, states and incidents in any order (`Mirrors`).  Such
tables are read with the same answers, and every write of what fits a row goes through on both sides
and leaves a mirror again.  Of the incidents this takes more than the rows (`Ledger`): that no root
has two that are open, or they could not be told apart where they are loaded by their roots.
-/

namespace Cascade.Store

open Time Tables

/-! ### Incidents -/

/-- Rows hold the incidents of a tidy book. -/
structure Ledger (m : IdMap Incident) (rows : List IncidentRow) : Prop where
  /-- No root has two open incidents. -/
  tidy : IncidentBook.Tidy m
  storable : ∀ {id i}, m.get? id = some i → i.Storable
  exists_lists : ∃ l, IdMap.Lists l m ∧ rows = l.map fun e ↦ incidentRow e.2

/-- An incident is kept under the id of another, with its root and its beginning. -/
def Continues (m : IdMap Incident) (i : Incident) : Prop :=
  ∃ j, m.get? i.id = some j ∧ j.root = i.root ∧ j.startedAt = i.startedAt

namespace Ledger

variable {m : IdMap Incident} {rows : List IncidentRow} {i k : Incident}

theorem empty : Ledger ∅ [] where
  tidy := ⟨by rintro _ _ ⟨⟩, by rintro _ _ _ _ ⟨⟩⟩
  storable := by rintro _ _ ⟨⟩
  exists_lists := ⟨[], .empty, rfl⟩

/-- Rows that hold the incidents of a list, as the book does. -/
theorem exists_holds (h : Ledger m rows) :
    ∃ l, IncidentBook.Holds m l ∧ rows = l.map incidentRow := by
  obtain ⟨l, lists, rfl⟩ := h.exists_lists
  have entries : IncidentBook.entries (l.map (·.2)) = l := by
    rw [IncidentBook.entries, List.map_map]
    refine (List.map_congr_left fun e mem ↦ ?_).trans (List.map_id l)
    exact Prod.ext (h.tidy.keyed (lists.get?_iff.2 mem)) rfl
  refine ⟨l.map (·.2), ?_, by rw [List.map_map]; rfl⟩
  rw [IncidentBook.Holds, entries]
  exact lists

theorem of_holds {l : List Incident} (tidy : IncidentBook.Tidy m)
    (storable : ∀ {id i}, m.get? id = some i → i.Storable) (holds : IncidentBook.Holds m l) :
    Ledger m (l.map incidentRow) :=
  ⟨tidy, storable, IncidentBook.entries l, holds, by rw [IncidentBook.entries, List.map_map]; rfl⟩

theorem storable_insert (h : Ledger m rows) (fits : i.Storable) {id : IncidentId}
    (kept : (m.insert i.id i).get? id = some k) : k.Storable := by
  rw [IdMap.get?_insert] at kept
  split at kept
  · cases kept
    exact fits
  · exact h.storable kept

/-- Opening an incident adds its row, or neither side takes it. -/
theorem addOpened (h : Ledger m rows) (fits : i.Storable) :
    ∃ rows', Tables.addOpened rows i = .ok rows' ∧ Ledger (IncidentBook.addOpened m i) rows' := by
  obtain ⟨l, holds, rfl⟩ := h.exists_holds
  obtain ⟨l', filed, holds'⟩ := holds.addOpened i
  refine ⟨l'.map incidentRow, ?_, .of_holds h.tidy.addOpened (fun kept ↦ ?_) holds'⟩
  · rw [addOpened_rows, Filing.columns_addOpened fits, filed]
    rfl
  · rw [IncidentBook.addOpened] at kept
    split at kept
    · exact h.storable kept
    · exact h.storable_insert fits kept

/-- Ending an incident changes the row of the open one of its id, which keeps its root and its
beginning. -/
theorem putResolved (h : Ledger m rows) (fits : i.Storable) (isOver : i.isOpen = false)
    (continues : Continues m i) : ∃ rows', Tables.putResolved rows i = .ok rows' ∧
      Ledger (IncidentBook.putResolved m i) rows' := by
  obtain ⟨j, stored, same⟩ := continues
  obtain ⟨l, holds, rfl⟩ := h.exists_holds
  obtain ⟨l', filed, holds'⟩ := holds.putResolved i
  have only : ∀ k ∈ l, k.id = i.id → k.root = i.root ∧ k.startedAt = i.startedAt := by
    intro k hk own
    have found := holds.get?_iff.2 ⟨hk, own⟩
    rw [stored] at found
    cases found
    exact same
  refine ⟨l'.map incidentRow, ?_, .of_holds (h.tidy.putResolved isOver) (fun kept ↦ ?_) holds'⟩
  · rw [putResolved_rows, Filing.columns_putResolved fits only, filed]
    rfl
  · rw [IncidentBook.putResolved, stored] at kept
    dsimp only at kept
    split at kept
    · exact h.storable_insert fits kept
    · exact h.storable kept

end Ledger

/-! ### Transitions -/

variable {m : IdMap Incident} {rows : List IncidentRow} {i k : Incident}

theorem Continues.addOpened (h : Continues m i) : Continues (IncidentBook.addOpened m k) i := by
  obtain ⟨j, stored, same⟩ := h
  rw [IncidentBook.addOpened]
  split
  · exact ⟨j, stored, same⟩
  · rename_i new
    refine ⟨j, ?_, same⟩
    rw [IdMap.get?_insert, if_neg, stored]
    intro eq
    simp [IdMap.contains, eq, stored] at new

theorem Continues.putResolved (h : Continues m i) (continues : Continues m k) :
    Continues (IncidentBook.putResolved m k) i := by
  obtain ⟨j, stored, root, startedAt⟩ := h
  obtain ⟨x, known, root', startedAt'⟩ := continues
  rw [IncidentBook.putResolved, known]
  dsimp only
  split
  · rw [Continues, IdMap.get?_insert]
    by_cases eq : k.id = i.id
    · rw [eq, stored] at known
      cases known
      exact ⟨k, if_pos eq, root'.symm.trans root, startedAt'.symm.trans startedAt⟩
    · exact ⟨j, by rw [if_neg eq, stored], root, startedAt⟩
  · exact ⟨j, stored, root, startedAt⟩

/-- A transition that can be saved on both sides: what it ends is kept, and all of it fits. -/
structure Suits (m : IdMap Incident) (t : Transition) : Prop where
  opened : ∀ i ∈ t.opened, i.Storable
  resolved : ∀ i ∈ t.resolved, i.Storable
  isOver : ∀ i ∈ t.resolved, i.isOpen = false
  continues : ∀ i ∈ t.resolved, Continues m i

/-- Saving a transition leaves rows that hold the incidents after it. -/
theorem Ledger.save {t : Transition} (h : Ledger m rows) (suits : Suits m t) :
    ∃ rows' rows'', t.opened.foldlM Tables.addOpened rows = .ok rows' ∧
      t.resolved.foldlM Tables.putResolved rows' = .ok rows'' ∧
      Ledger (IncidentBook.apply t m) rows'' := by
  -- on the way what ends stays in the book
  let Related (m : IdMap Incident) (rows : List IncidentRow) : Prop :=
    Ledger m rows ∧ ∀ i ∈ t.resolved, Continues m i
  have open_ : ∀ k ∈ t.opened, ∀ {m rows}, Related m rows →
      ∃ rows', Tables.addOpened rows k = .ok rows' ∧
        Related (IncidentBook.addOpened m k) rows' := by
    rintro k hk m rows ⟨h, continues⟩
    obtain ⟨rows', ok, h'⟩ := h.addOpened (suits.opened k hk)
    exact ⟨rows', ok, h', fun i hi ↦ (continues i hi).addOpened⟩
  have end_ : ∀ k ∈ t.resolved, ∀ {m rows}, Related m rows →
      ∃ rows', Tables.putResolved rows k = .ok rows' ∧
        Related (IncidentBook.putResolved m k) rows' := by
    rintro k hk m rows ⟨h, continues⟩
    obtain ⟨rows', ok, h'⟩ :=
      h.putResolved (suits.resolved k hk) (suits.isOver k hk) (continues k hk)
    exact ⟨rows', ok, h', fun i hi ↦ (continues i hi).putResolved (continues k hk)⟩
  obtain ⟨rows', began, related⟩ := exists_foldlM open_ ⟨h, suits.continues⟩
  obtain ⟨rows'', ended, ledger, -⟩ := exists_foldlM end_ related
  exact ⟨rows', rows'', began, ended, ledger⟩

/-! ### States -/

def HoldsStates (states : StateMap) (rows : List StateRow) : Prop :=
  ∃ l, IdMap.Lists l states ∧ rows = l.map stateRow

theorem HoldsStates.putState {states : StateMap} {rows : List StateRow}
    (h : HoldsStates states rows) (e : ComponentId × ComponentState) :
    HoldsStates (states.insert e.1 e.2) (putState rows e) := by
  obtain ⟨l, lists, rfl⟩ := h
  have any : (l.map stateRow).any (·.component = e.1.toText) = states.contains e.1 := by
    rw [Bool.eq_iff_iff]
    show _ ↔ e.1 ∈ states
    simp [lists.mem_iff, stateRow, Uuid.toText_inj]
  rw [Tables.putState, any]
  split
  · rename_i known
    refine ⟨_, lists.put known, ?_⟩
    rw [List.map_map, List.map_map]
    refine List.map_congr_left fun x _ ↦ ?_
    simp only [Function.comp_apply, stateRow, Uuid.toText_inj]
    split
    · rename_i own
      rw [own]
    · rfl
  · rename_i new
    exact ⟨_, lists.snoc new, by rw [List.map_append]; rfl⟩

theorem HoldsStates.override {states : StateMap} {rows : List StateRow}
    (h : HoldsStates states rows) (new : StateMap) :
    HoldsStates (states.override new) (new.entries.foldl Tables.putState rows) := by
  rw [IdMap.override]
  induction new.entries generalizing states rows with
  | nil => exact h
  | cons e l ih => exact ih (h.putState e)

/-! ### All together -/

/-- Tables hold what a store within the program keeps, which refuses nothing. -/
structure Mirrors (m : Memory) (t : Tables) : Prop where
  signals : t.signals = m.log.records.map signalRow
  fits : ∀ r ∈ m.log.records, r.Storable
  states : HoldsStates m.states t.states
  incidents : Ledger m.book.incidents t.incidents
  alerts : t.alerts = m.alerts.map alertRow
  sent : ∀ r ∈ m.alerts, r.Storable
  takesStates : m.statesClosed = false
  takesIncidents : m.incidentsClosed = false
  takesRecords : m.recorderClosed = false

namespace Mirrors

variable {m : Memory} {t : Tables}

/-- Before anything is kept, tables of components and dependencies only are a mirror. -/
theorem empty (components : List ComponentRow) (dependencies : List (String × String)) :
    Mirrors .empty { Tables.empty with components, dependencies } where
  signals := rfl
  fits := by rintro _ ⟨⟩
  states := ⟨[], .empty, rfl⟩
  incidents := .empty
  alerts := rfl
  sent := by rintro _ ⟨⟩
  takesStates := rfl
  takesIncidents := rfl
  takesRecords := rfl

/-! #### Reading -/

theorem find (h : Mirrors m t) (id : ComponentId) : t.find id = .ok (m.log.find id) :=
  find_signalRows h.fits h.signals id

theorem loadStates (h : Mirrors m t) : t.loadStates = .ok m.states := by
  obtain ⟨l, lists, rows⟩ := h.states
  exact loadStates_stateRows lists rows

theorem loadActive (h : Mirrors m t) : t.loadActive = .ok m.book.active := by
  obtain ⟨l, holds, rows⟩ := h.incidents.exists_holds
  have tidy := h.incidents.tidy
  have reread : ∀ i ∈ l, i.reread = i := fun i hi ↦
    (h.incidents.storable (holds.get?_iff.2 ⟨hi, rfl⟩)).reread_eq
  obtain ⟨active, loaded, mem⟩ := exists_loadActive rows reread (holds.tidy_iff.1 tidy)
  rw [loaded]
  refine congrArg Except.ok (IdMap.ext fun root ↦ ?_)
  ext i
  rw [mem, tidy.get?_active, holds.get?_iff, and_iff_left rfl]

theorem readAlerts (h : Mirrors m t) : t.alerts.mapM readAlert = .ok m.alerts :=
  readAlerts_alertRows h.sent h.alerts

/-! #### Writing -/

theorem append {r : SignalRecord} (h : Mirrors m t) (fits : r.Storable) :
    ∃ t', t.append r = .ok ((m.append r).1, t') ∧ Mirrors (m.append r).2 t' := by
  have refuses : (r.key.isSome = true ∧ t.signals.any (·.key = r.key) = true) ↔
      m.log.refuses r = true := by
    rw [h.signals, SignalLog.refuses, List.any_map]
    cases r.key with
    | none => simp
    | some k =>
      constructor
      · rintro ⟨-, known⟩
        obtain ⟨x, mem, own⟩ := List.any_eq_true.1 known
        exact SignalLog.hasKey_iff.2 ⟨x, mem, of_decide_eq_true own⟩
      · intro known
        obtain ⟨x, mem, own⟩ := SignalLog.hasKey_iff.1 known
        exact ⟨rfl, List.any_eq_true.2 ⟨x, mem, decide_eq_true own⟩⟩
  rw [append_eq fits, Memory.append, SignalLog.append]
  by_cases known : m.log.refuses r = true
  · rw [if_pos (refuses.2 known), if_pos known]
    exact ⟨t, rfl, h⟩
  · rw [if_neg (mt refuses.1 known), if_neg known]
    refine ⟨_, rfl, { h with signals := ?_, fits := ?_ }⟩
    · simp [h.signals]
    · intro x mem
      rcases List.mem_append.1 mem with mem | mem
      · exact h.fits x mem
      · exact List.mem_singleton.1 mem ▸ fits

theorem saveStates (h : Mirrors m t) (states : StateMap) :
    ∃ m', m.saveStates states = .ok m' ∧ Mirrors m' (t.saveStates states) := by
  rw [Memory.saveStates, if_neg (Bool.eq_false_iff.1 h.takesStates)]
  exact ⟨_, rfl, { h with states := h.states.override states }⟩

theorem saveTransition {tr : Transition} (h : Mirrors m t) (suits : Suits m.book.incidents tr) :
    ∃ m' t', m.saveTransition tr = .ok m' ∧ t.saveTransition tr = .ok t' ∧ Mirrors m' t' := by
  obtain ⟨rows, rows', began, ended, ledger⟩ := h.incidents.save suits
  rw [Memory.saveTransition, if_neg (Bool.eq_false_iff.1 h.takesIncidents), Tables.saveTransition,
    began]
  dsimp only [bind, Except.bind]
  rw [ended]
  exact ⟨_, _, rfl, rfl, { h with incidents := ledger }⟩

theorem record {records : List AlertRecord} (h : Mirrors m t) (fits : ∀ r ∈ records, r.Storable) :
    ∃ m' t', m.record records = .ok m' ∧ t.record records = .ok t' ∧ Mirrors m' t' := by
  rw [Memory.record, if_neg (Bool.eq_false_iff.1 h.takesRecords), Tables.record,
    addAlerts_eq fits]
  refine ⟨_, _, rfl, rfl, { h with alerts := ?_, sent := ?_ }⟩
  · rw [h.alerts, List.map_append]
  · intro r mem
    rcases List.mem_append.1 mem with mem | mem
    · exact h.sent r mem
    · exact fits r mem

end Mirrors

end Cascade.Store
