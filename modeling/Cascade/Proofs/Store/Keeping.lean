import Cascade.Proofs.Store.Entries

/-!
# Either kind of store keeps incidents

A store keeps the incidents of a list (`Backend.Keeps`).  `Backend.Keeps.saveTransition` says that
it takes a transition as the list does, in its own way of filing, and
`Backend.Keeps.exists_incidents` and `Backend.Keeps.exists_active` say what is read from it.
-/

namespace Cascade.Store

namespace Backend

def isDurable : Backend → Bool
  | memory _ => false
  | durable _ => true

def filing (b : Backend) : Filing := if b.isDurable then .columns else .whole

def refusesIncidents : Backend → Bool
  | memory m => m.incidentsClosed
  | durable _ => false

def Keeps : Backend → List Incident → Prop
  | memory m, l => IncidentBook.Holds m.book.incidents l
  | durable t, l => t.incidents = l.map Tables.incidentRow ∧ ∀ i ∈ l, i.reread = i

variable {b b' : Backend} {l : List Incident} {tr : Transition}

theorem isDurable_saveTransition (saved : b.saveTransition tr = .ok b') :
    b'.isDurable = b.isDurable := by
  cases b <;> obtain ⟨-, -, rfl⟩ := exists_of_map_eq_ok saved <;> rfl

theorem saveTransition_of_refuses (refuses : b.refusesIncidents = true) :
    b.saveTransition tr = .error (.unavailable .incidents) := by
  cases b with
  | memory m =>
    have closed : m.incidentsClosed = true := refuses
    rw [saveTransition, Memory.saveTransition, if_pos closed]
    rfl
  | durable t => cases refuses

/-- What is filed in columns is as it comes back from them. -/
theorem reread_save {l' : List Incident} (reread : ∀ i ∈ l, i.reread = i)
    (saved : Filing.columns.save tr l = .ok l') : ∀ i ∈ l', i.reread = i := by
  refine Filing.save_induction (P := fun l ↦ ∀ i ∈ l, i.reread = i) ?_ ?_ reread saved
  · intro i _ l l' reread h
    rcases Filing.addOpened_cases h with ⟨rfl, -⟩ | ⟨rfl, -, -⟩ | ⟨rfl, -, -⟩
    · exact reread
    · exact reread
    · intro k hk
      rcases List.mem_append.1 hk with hk | hk
      · exact reread k hk
      · rw [List.mem_singleton.1 hk]
        exact i.reread_reread
  · intro i _ l l' reread h
    obtain ⟨-, rfl⟩ := Filing.of_putResolved h
    intro _ mem
    obtain ⟨k, hk, rfl⟩ := List.mem_map.1 mem
    rw [Filing.overwrite]
    split
    · have began : k.startedAt.reread = k.startedAt := congrArg Incident.startedAt (reread k hk)
      simp [Filing.columns, Incident.reread, Function.comp_def, began]
    · exact reread k hk

/-- A store that keeps incidents and is not told to refuse takes a transition as the list of the
incidents does. -/
theorem Keeps.saveTransition (keeps : b.Keeps l) (tr : Transition)
    (takes : b.refusesIncidents = false) :
    AnswersAlike Keeps (b.saveTransition tr) (b.filing.save tr l) := by
  cases b with
  | memory m =>
    obtain ⟨l', saved, holds⟩ := IncidentBook.Holds.apply keeps tr
    have taken : ¬ m.incidentsClosed = true := Bool.eq_false_iff.1 takes
    rw [Backend.saveTransition, Memory.saveTransition, if_neg taken]
    show AnswersAlike _ _ (Filing.whole.save tr l)
    rw [saved]
    exact .ok holds
  | durable t =>
    obtain ⟨rows, reread⟩ := keeps
    rw [Backend.saveTransition, Tables.saveTransition_rows rows]
    show AnswersAlike _ _ (Filing.columns.save tr l)
    cases saved : Filing.columns.save tr l with
    | error e => exact .error e
    | ok l' => exact .ok ⟨rfl, reread_save reread saved⟩

/-- A transition that is saved is saved by the list of the incidents. -/
theorem Keeps.of_saveTransition (keeps : b.Keeps l) (saved : b.saveTransition tr = .ok b') :
    ∃ l', b.filing.save tr l = .ok l' ∧ b'.Keeps l' := by
  cases refuses : b.refusesIncidents with
  | true =>
    rw [saveTransition_of_refuses refuses] at saved
    cases saved
  | false =>
    have alike := keeps.saveTransition tr refuses
    rw [saved] at alike
    generalize b.filing.save tr l = answer at alike
    cases alike with
    | ok related => exact ⟨_, rfl, related⟩

/-- A transition is refused if the store is told to, or for a date that does not fit its column. -/
theorem Keeps.of_saveTransition_error {e : StoreError} (keeps : b.Keeps l)
    (refused : b.saveTransition tr = .error e) :
    (b.refusesIncidents = true ∧ e = .unavailable .incidents) ∨
      (b.isDurable = true ∧ ∃ i ∈ tr.opened ++ tr.resolved,
        ∃ t, i.Dated t ∧ t.toWord? = none ∧ e = .timestampOutOfRange t) := by
  cases b with
  | memory m =>
    rw [Backend.saveTransition, Memory.saveTransition] at refused
    replace refused := of_map_eq_error refused
    split at refused
    · rename_i closed
      cases refused
      exact .inl ⟨closed, rfl⟩
    · cases refused
  | durable t =>
    rw [Backend.saveTransition, Tables.saveTransition_rows keeps.1] at refused
    exact .inr ⟨rfl,
      Filing.of_columns_save_eq_error (of_map_eq_error (of_map_eq_error refused))⟩

/-! ### Reading -/

/-- The incidents are read, in some order. -/
theorem Keeps.exists_incidents (keeps : b.Keeps l) :
    ∃ kept, b.incidents = .ok kept ∧ kept.Perm l := by
  cases b with
  | memory m => exact ⟨_, rfl, IncidentBook.Holds.perm_values keeps⟩
  | durable t =>
    obtain ⟨rows, reread⟩ := keeps
    have readable : ∀ i ∈ l, Tables.readIncident (Tables.incidentRow i) = .ok (id i) := by
      intro i hi
      rw [Tables.readIncident_row, reread i hi, id]
    refine ⟨l, ?_, .refl l⟩
    rw [incidents, rows, Tables.mapM_map_eq_ok readable, List.map_id]

/-- The open ones of tidy incidents are loaded, each under its root. -/
theorem Keeps.exists_active (keeps : b.Keeps l) (tidy : Filing.Tidy l) :
    ∃ active, Backend.access.loadActive b = .ok active ∧
      ∀ root i, active.get? root = some i ↔ i ∈ l ∧ i.isOpen = true ∧ i.root = root := by
  cases b with
  | memory m =>
    refine ⟨_, rfl, fun root i ↦ tidy.get?_ofList fun i ↦ ?_⟩
    rw [List.mem_filter, (IncidentBook.Holds.perm_values keeps).mem_iff]
  | durable t => exact Tables.exists_loadActive keeps.1 keeps.2 tidy

/-- Stores of one kind that keep the same incidents show the same. -/
theorem Keeps.reads_eq (keeps : b.Keeps l) (keeps' : b'.Keeps l)
    (kind : b'.isDurable = b.isDurable) : b'.incidents = b.incidents ∧
      Backend.access.loadActive b' = Backend.access.loadActive b := by
  cases b with
  | memory m =>
    cases b' with
    | durable t => cases kind
    | memory m' =>
      have same : m'.book.incidents = m.book.incidents := by
        refine IdMap.ext fun id ↦ Option.ext fun i ↦ ?_
        exact (IncidentBook.Holds.get?_iff keeps').trans (IncidentBook.Holds.get?_iff keeps).symm
      exact ⟨congrArg (Except.ok ∘ IdMap.values) same,
        congrArg Except.ok (IncidentBook.active_congr same)⟩
  | durable t =>
    cases b' with
    | memory m => cases kind
    | durable t' =>
      have same : t'.incidents = t.incidents := keeps'.1.trans keeps.1.symm
      constructor
      · rw [incidents, same, incidents]
      · show t'.loadActive = t.loadActive
        rw [Tables.loadActive, Tables.openRows, same, Tables.loadActive, Tables.openRows]

end Backend

end Cascade.Store
