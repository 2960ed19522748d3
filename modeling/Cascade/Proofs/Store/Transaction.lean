import Cascade.Proofs.Except
import Cascade.Store.Table

/-!
# Transitions as transactions

The durable tables are written row by row.  A transaction writes on a draft: `Tables.write` stops at
the first entry that is refused and leaves what the entries before it have written.  Then the draft
is committed or dropped (`Tables.finish`).  `Tables.transact_eq` says that this is what saving a
transition does, and so that nothing of a refused transition stays.
-/

namespace Cascade.Store.Tables

/-- Enters one incident after another, up to the first that is refused, and leaves the rows as those
before it made them. -/
def enterAll (enter : List IncidentRow → Incident → Except StoreError (List IncidentRow)) :
    List Incident → List IncidentRow → Except StoreError Unit × List IncidentRow
  | [], rows => (.ok (), rows)
  | i :: l, rows =>
    match enter rows i with
    | .ok rows => enterAll enter l rows
    | .error e => (.error e, rows)

/-- Writes the entries of a transition, up to the first that is refused. -/
def write (tr : Transition) (t : Tables) : Except StoreError Unit × Tables :=
  match enterAll addOpened tr.opened t.incidents with
  | (.error e, rows) => (.error e, { t with incidents := rows })
  | (.ok (), rows) =>
    let (answer, rows) := enterAll putResolved tr.resolved rows
    (answer, { t with incidents := rows })

/-- Commits a draft that went through, and goes back to the tables before it otherwise. -/
def finish (before : Tables) : Except StoreError Unit × Tables → Except StoreError Unit × Tables
  | (.ok (), draft) => (.ok (), draft)
  | (.error e, _) => (.error e, before)

/-- Saves a transition in a transaction, which is not begun if nothing changes. -/
def transact (tr : Transition) (t : Tables) : Except StoreError Unit × Tables :=
  if tr.isEmpty then (.ok (), t) else finish t (write tr t)

section enterAll

variable {enter : List IncidentRow → Incident → Except StoreError (List IncidentRow)}
variable {l : List Incident} {rows rows' : List IncidentRow} {e : StoreError}

theorem enterAll_of_ok (went : l.foldlM enter rows = .ok rows') :
    enterAll enter l rows = (.ok (), rows') := by
  induction l generalizing rows with
  | nil => rw [enterAll, Except.ok.inj went]
  | cons i l ih =>
    rw [List.foldlM_cons] at went
    obtain ⟨mid, first, rest⟩ := bind_eq_ok_iff.1 went
    rw [enterAll, first]
    exact ih rest

theorem enterAll_of_error (refused : l.foldlM enter rows = .error e) :
    ∃ left, enterAll enter l rows = (.error e, left) := by
  induction l generalizing rows with
  | nil => cases refused
  | cons i l ih =>
    rw [List.foldlM_cons] at refused
    rcases bind_eq_error_iff.1 refused with first | ⟨mid, first, rest⟩
    · exact ⟨rows, by rw [enterAll, first]⟩
    · rw [enterAll, first]
      exact ih rest

end enterAll

variable {tr : Transition} {t t' : Tables} {e : StoreError}

theorem write_of_ok (saved : t.saveTransition tr = .ok t') : t.write tr = (.ok (), t') := by
  obtain ⟨mid, began, saved⟩ := bind_eq_ok_iff.1 saved
  obtain ⟨rows, ended, eq⟩ := bind_eq_ok_iff.1 saved
  rw [write, enterAll_of_ok began]
  simp only [enterAll_of_ok ended]
  rw [← Except.ok.inj eq]

theorem write_of_error (refused : t.saveTransition tr = .error e) :
    ∃ draft, t.write tr = (.error e, draft) := by
  rcases bind_eq_error_iff.1 refused with began | ⟨mid, began, refused⟩
  · obtain ⟨left, eq⟩ := enterAll_of_error began
    exact ⟨_, by rw [write, eq]⟩
  · rcases bind_eq_error_iff.1 refused with ended | ⟨rows, -, never⟩
    · obtain ⟨left, eq⟩ := enterAll_of_error ended
      exact ⟨_, by rw [write, enterAll_of_ok began]; simp only [eq]; rfl⟩
    · cases never

/-- A transaction saves a transition, or leaves the tables as they were. -/
theorem transact_eq : t.transact tr =
    match t.saveTransition tr with
    | .ok t' => (.ok (), t')
    | .error e => (.error e, t) := by
  rw [transact]
  split
  · rename_i empty
    obtain ⟨opened, resolved⟩ := tr
    obtain ⟨rfl, rfl⟩ : opened = [] ∧ resolved = [] := by
      simpa [Transition.isEmpty] using empty
    rfl
  · cases saved : t.saveTransition tr with
    | ok t' => rw [write_of_ok saved, finish]
    | error e =>
      obtain ⟨draft, eq⟩ := write_of_error saved
      rw [eq, finish]

/-- An incident is in the draft when its end is refused, and not in the tables after that. -/
example :
    let i : Incident := .begin default default (.ofNanos 0)
    let tr : Transition := ⟨[i], [i.resolve (.ofNanos (2 ^ 63))]⟩
    (empty.write tr).2.incidents.length = 1 ∧ (empty.transact tr).2 = empty :=
  ⟨rfl, rfl⟩

end Cascade.Store.Tables
