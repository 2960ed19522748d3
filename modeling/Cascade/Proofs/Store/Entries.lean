import Cascade.Proofs.Store.Rows

/-!
# How stores file incidents

A store within the program keeps incidents as they are given (`Filing.whole`).  The durable tables
keep what their columns hold (`Filing.columns`): a leap second comes back as the second after it, an
end is written without a beginning and a root, and an instant beyond a signed 64-bit word is
refused.  Both file the entries of a transition in the same way otherwise.
`IncidentBook.Holds.apply` says so of a book, and `Tables.saveTransition_rows` of rows.
-/

namespace Cascade

open Time

/-- A date of an incident: its start, or its end. -/
def Incident.Dated (i : Incident) (t : Instant) : Prop := t = i.startedAt ∨ i.resolvedAt = some t

/-! ## The two ways of filing -/

namespace Filing

open Store Tables

/-- Everything is kept as it is given. -/
def whole : Filing where
  checkNew _ := .ok ()
  form := id
  checkEnd _ := .ok ()
  ended _ i := i
  id_form _ := rfl
  root_form _ := rfl
  id_ended := Eq.symm
  status_ended _ _ := rfl
  ended_ended _ _ _ := rfl

/-- What columns hold is kept. -/
def columns : Filing where
  checkNew i := do
    let _ ← optInstantColumn i.resolvedAt
    let _ ← instantColumn i.startedAt
    return ()
  form := Incident.reread
  checkEnd i := (optInstantColumn i.resolvedAt).map fun _ ↦ ()
  ended k i := { k with status := i.status, resolvedAt := i.resolvedAt.map Instant.reread }
  id_form _ := rfl
  root_form _ := rfl
  id_ended _ := rfl
  status_ended _ _ := rfl
  ended_ended _ _ _ := rfl

variable {i : Incident} {e : StoreError}

/-- A new incident is refused for one of its dates. -/
theorem of_columns_checkNew_eq_error (refused : columns.checkNew i = .error e) :
    ∃ t, i.Dated t ∧ t.toWord? = none ∧ e = .timestampOutOfRange t := by
  rcases bind_eq_error_iff.1 refused with ended | ⟨-, -, refused⟩
  · obtain ⟨t, own, beyond, rfl⟩ := of_optInstantColumn_eq_error ended
    exact ⟨t, .inr own, beyond, rfl⟩
  · rcases bind_eq_error_iff.1 refused with began | ⟨-, -, never⟩
    · obtain ⟨beyond, rfl⟩ := of_instantColumn_eq_error began
      exact ⟨i.startedAt, .inl rfl, beyond, rfl⟩
    · cases never

/-- An end is refused for its date. -/
theorem of_columns_checkEnd_eq_error (refused : columns.checkEnd i = .error e) :
    ∃ t, i.Dated t ∧ t.toWord? = none ∧ e = .timestampOutOfRange t := by
  obtain ⟨t, own, beyond, rfl⟩ := of_optInstantColumn_eq_error (of_map_eq_error refused)
  exact ⟨t, .inr own, beyond, rfl⟩

/-- A transition is refused for a date in one of its entries. -/
theorem of_columns_save_eq_error {tr : Transition} {l : List Incident}
    (refused : columns.save tr l = .error e) : ∃ i ∈ tr.opened ++ tr.resolved,
      ∃ t, i.Dated t ∧ t.toWord? = none ∧ e = .timestampOutOfRange t := by
  rcases exists_of_save_eq_error refused with ⟨i, entry, refused⟩ | ⟨i, entry, refused⟩
  · exact ⟨i, List.mem_append_left _ entry, of_columns_checkNew_eq_error refused⟩
  · exact ⟨i, List.mem_append_right _ entry, of_columns_checkEnd_eq_error refused⟩

/-- A new incident is kept if both of its dates fit their columns. -/
theorem columns_checkNew_eq_ok_iff :
    columns.checkNew i = .ok () ↔ ∀ t, i.Dated t → t.toWord? ≠ none := by
  constructor
  · intro checked t dated beyond
    obtain ⟨n, ended, checked⟩ := bind_eq_ok_iff.1 checked
    obtain ⟨m, began, -⟩ := bind_eq_ok_iff.1 checked
    rcases dated with rfl | own
    · rw [instantColumn, beyond] at began
      cases began
    · rw [own, optInstantColumn, instantColumn, beyond] at ended
      cases ended
  · intro fits
    cases checked : columns.checkNew i with
    | ok => rfl
    | error e =>
      obtain ⟨t, dated, beyond, -⟩ := of_columns_checkNew_eq_error checked
      exact absurd beyond (fits t dated)

/-- A new incident that fits its row is filed in columns as it is given. -/
theorem columns_addOpened (fits : i.Storable) (l : List Incident) :
    columns.addOpened l i = whole.addOpened l i := by
  have checked : columns.checkNew i = .ok () := by
    rw [columns_checkNew_eq_ok_iff]
    rintro t (rfl | own)
    · simp [fits.startedAt.toWord?]
    · simp [(fits.resolvedAt t own).toWord?]
  have kept : columns.form i = i := fits.reread_eq
  rw [addOpened, addOpened, checked, kept]
  rfl

/-- So is an end of an incident that keeps its root and its start. -/
theorem columns_putResolved (fits : i.Storable) {l : List Incident}
    (continues : ∀ k ∈ l, k.id = i.id → k.root = i.root ∧ k.startedAt = i.startedAt) :
    columns.putResolved l i = whole.putResolved l i := by
  have checked : columns.checkEnd i = .ok () := by
    show (optInstantColumn i.resolvedAt).map _ = _
    rw [optInstantColumn_eq fits.resolvedAt]
    rfl
  rw [putResolved, putResolved, checked]
  refine congrArg Except.ok (List.map_congr_left fun k hk ↦ ?_)
  rw [overwrite, overwrite]
  split
  · rename_i own
    obtain ⟨root, startedAt⟩ := continues k hk own.1
    have resolvedAt : i.resolvedAt.map Instant.reread = i.resolvedAt :=
      congrArg Incident.resolvedAt fits.reread_eq
    simp only [columns, whole, resolvedAt, own.1, root, startedAt]
  · rfl

end Filing

namespace Store

/-! ## Rows -/

namespace Tables

variable {l : List Incident} {t : Tables} {tr : Transition}

theorem hasOpen_rows (l : List Incident) (root : ComponentId) :
    hasOpen (l.map incidentRow) root.toText = Filing.hasOpen l root := by
  rw [hasOpen, List.any_map, Filing.hasOpen]
  congr 1
  funext k
  rw [Bool.eq_iff_iff, Function.comp_apply, decide_eq_true_eq, Bool.and_eq_true,
    decide_eq_true_eq, isOpen_iff_code, and_comm]
  simp only [incidentRow, Uuid.toText_inj]

theorem knows_rows (l : List Incident) (id : IncidentId) :
    (l.map incidentRow).any (·.id = id.toText) = Filing.knows l id := by
  simp [Filing.knows, List.any_map, Function.comp_def, incidentRow, Uuid.toText_inj]

theorem addOpened_rows (l : List Incident) (i : Incident) :
    addOpened (l.map incidentRow) i =
      (Filing.columns.addOpened l i).map fun l ↦ l.map incidentRow := by
  simp only [addOpened, Filing.addOpened, hasOpen_rows, knows_rows]
  split
  · rfl
  · simp only [Filing.columns]
    cases ended : optInstantColumn i.resolvedAt with
    | error e => rfl
    | ok resolvedAt =>
      cases began : instantColumn i.startedAt with
      | error e => rfl
      | ok startedAt =>
        obtain rfl := of_optInstantColumn ended
        obtain rfl := of_instantColumn began
        simp only [bind, Except.bind, pure, Except.pure, Except.map]
        split
        · rfl
        · rw [List.map_append, List.map_singleton, incidentRow_reread]
          rfl

theorem putResolved_rows (l : List Incident) (i : Incident) :
    putResolved (l.map incidentRow) i =
      (Filing.columns.putResolved l i).map fun l ↦ l.map incidentRow := by
  rw [putResolved, Filing.putResolved]
  simp only [Filing.columns]
  cases ended : optInstantColumn i.resolvedAt with
  | error e => rfl
  | ok resolvedAt =>
    obtain rfl := of_optInstantColumn ended
    simp only [bind, Except.bind, pure, Except.pure, Except.map, List.map_map]
    refine congrArg Except.ok (List.map_congr_left fun k _ ↦ ?_)
    simp only [Function.comp_apply, Filing.overwrite, isOpen_iff_code]
    by_cases own : k.id = i.id ∧ k.status.code = IncidentStatus.ongoing.code
    · rw [if_pos own, if_pos ⟨congrArg Uuid.toText own.1, own.2⟩]
      simp [incidentRow, Function.comp_def]
    · rw [if_neg own, if_neg fun h ↦ own ⟨Uuid.toText_inj.1 h.1, h.2⟩]

/-- Rows take a transition as the incidents do that they hold. -/
theorem saveTransition_rows (rows : t.incidents = l.map incidentRow) :
    t.saveTransition tr = (Filing.columns.save tr l).map fun l' ↦
      { t with incidents := l'.map incidentRow } := by
  rw [saveTransition, Filing.save, rows, foldlM_map_comm addOpened_rows]
  cases tr.opened.foldlM Filing.columns.addOpened l with
  | error e => rfl
  | ok mid =>
    show (do let rows ← tr.resolved.foldlM putResolved (mid.map incidentRow)
             return { t with incidents := rows }) =
      (tr.resolved.foldlM Filing.columns.putResolved mid).map _
    rw [foldlM_map_comm putResolved_rows]
    cases tr.resolved.foldlM Filing.columns.putResolved mid with
    | error e => rfl
    | ok l' => rfl

end Tables

/-! ## Incidents within the program -/

namespace IncidentBook

def entries (l : List Incident) : List (IncidentId × Incident) := l.map fun i ↦ (i.id, i)

/-- A book that holds the incidents of a list, each under its id. -/
def Holds (m : IdMap Incident) (l : List Incident) : Prop := IdMap.Lists (entries l) m

variable {m : IdMap Incident} {l : List Incident}

theorem Holds.get?_iff (h : Holds m l) {id : IncidentId} {i : Incident} :
    m.get? id = some i ↔ i ∈ l ∧ i.id = id := by
  rw [IdMap.Lists.get?_iff h, entries, List.mem_map]
  constructor
  · rintro ⟨j, hj, ⟨⟩⟩
    exact ⟨hj, rfl⟩
  · rintro ⟨hi, rfl⟩
    exact ⟨i, hi, rfl⟩

/-- A book is tidy if the incidents that it holds are. -/
theorem Holds.tidy_iff (h : Holds m l) : Tidy m ↔ Filing.Tidy l := by
  constructor
  · intro tidy
    refine ⟨?_, fun i hi j hj ↦ tidy.unique (h.get?_iff.2 ⟨hi, rfl⟩) (h.get?_iff.2 ⟨hj, rfl⟩)⟩
    have ids : (entries l).map (·.1) = l.map (·.id) := by
      rw [entries, List.map_map]
      rfl
    exact ids ▸ h.nodup
  · intro tidy
    refine ⟨fun found ↦ (h.get?_iff.1 found).2, fun hi hj ↦ ?_⟩
    exact tidy.single _ (h.get?_iff.1 hi).1 _ (h.get?_iff.1 hj).1

theorem Holds.hasOpen_eq (h : Holds m l) (root : ComponentId) :
    hasOpen m root = Filing.hasOpen l root := by
  rw [Bool.eq_iff_iff, hasOpen_iff, Filing.hasOpen_iff]
  simp only [h.get?_iff]
  constructor
  · rintro ⟨id, i, ⟨hi, -⟩, open_, eq⟩
    exact ⟨i, hi, open_, eq⟩
  · rintro ⟨i, hi, open_, eq⟩
    exact ⟨i.id, i, ⟨hi, rfl⟩, open_, eq⟩

theorem Holds.contains_eq (h : Holds m l) (id : IncidentId) :
    m.contains id = Filing.knows l id := by
  rw [Bool.eq_iff_iff, Filing.knows_iff]
  show id ∈ m ↔ _
  rw [IdMap.mem_iff]
  simp only [h.get?_iff]

theorem Holds.addOpened (h : Holds m l) (i : Incident) :
    ∃ l', Filing.whole.addOpened l i = .ok l' ∧ Holds (addOpened m i) l' := by
  rw [IncidentBook.addOpened, Filing.addOpened, h.hasOpen_eq, h.contains_eq]
  cases some_ : Filing.hasOpen l i.root with
  | true => exact ⟨l, rfl, h⟩
  | false =>
    cases known : Filing.knows l i.id with
    | true => exact ⟨l, rfl, h⟩
    | false =>
      refine ⟨l ++ [i], rfl, ?_⟩
      rw [Holds, entries, List.map_append]
      refine IdMap.Lists.snoc h fun old ↦ ?_
      have same := h.contains_eq i.id
      rw [known] at same
      exact Bool.eq_false_iff.1 same old

theorem Holds.putResolved (h : Holds m l) (i : Incident) :
    ∃ l', Filing.whole.putResolved l i = .ok l' ∧ Holds (putResolved m i) l' := by
  refine ⟨l.map (Filing.whole.overwrite · i), rfl, ?_⟩
  -- where no open incident has the id, nothing is written
  have left (none : ∀ k ∈ l, k.id = i.id → k.isOpen = false) :
      l.map (Filing.whole.overwrite · i) = l := by
    refine (List.map_congr_left fun k hk ↦ if_neg ?_).trans (List.map_id l)
    rintro ⟨own, open_⟩
    rw [none k hk own] at open_
    cases open_
  rw [IncidentBook.putResolved]
  cases stored : m.get? i.id with
  | none =>
    rw [left fun k hk own ↦ ?_]
    · exact h
    · have found := h.get?_iff.2 ⟨hk, own⟩
      rw [stored] at found
      cases found
  | some j =>
    -- the id is that of one incident only
    have only : ∀ k ∈ l, k.id = i.id → k = j := by
      intro k hk own
      have found := h.get?_iff.2 ⟨hk, own⟩
      rw [stored] at found
      exact (Option.some.inj found).symm
    dsimp only
    split
    · rename_i open_
      have put := IdMap.Lists.put (v := i) h (IdMap.mem_iff.2 ⟨j, stored⟩)
      have same : entries (l.map (Filing.whole.overwrite · i)) =
          (entries l).map fun e ↦ if e.1 = i.id then (i.id, i) else e := by
        rw [entries, entries, List.map_map, List.map_map]
        refine List.map_congr_left fun k hk ↦ ?_
        simp only [Function.comp_apply, Filing.overwrite]
        by_cases own : k.id = i.id
        · rw [if_pos own, if_pos ⟨own, only k hk own ▸ open_⟩]
          rfl
        · rw [if_neg own, if_neg fun h ↦ own h.1]
      rw [Holds, same]
      exact put
    · rename_i closed
      rw [left fun k hk own ↦ ?_]
      · exact h
      · rw [only k hk own]
        exact Bool.eq_false_iff.2 closed

theorem Holds.apply (h : Holds m l) (t : Transition) :
    ∃ l', Filing.whole.save t l = .ok l' ∧ Holds (apply t m) l' := by
  obtain ⟨mid, began, h'⟩ :=
    exists_foldlM (R := Holds) (fun i _ {_ _} h ↦ Holds.addOpened h i) h
  obtain ⟨l', ended, h''⟩ :=
    exists_foldlM (R := Holds) (fun i _ {_ _} h ↦ Holds.putResolved h i) h'
  exact ⟨l', bind_eq_ok_iff.2 ⟨mid, began, ended⟩, h''⟩

/-- A book lists the incidents that it holds in the order of their ids. -/
theorem Holds.perm_values (h : Holds m l) : m.values.Perm l := by
  have same : m.entries.Perm (entries l) := by
    refine (List.perm_ext_iff_of_nodup (.of_map _ m.nodup_keys) (.of_map _ h.nodup)).2 ?_
    rintro ⟨id, i⟩
    rw [← IdMap.get?_eq_some_iff, IdMap.Lists.get?_iff h]
  have values : (entries l).map (·.2) = l := by
    rw [entries, List.map_map]
    exact List.map_id l
  rw [← values]
  exact same.map _

end IncidentBook

end Store

end Cascade
