import Cascade.Proofs.Store.Keeping
import Cascade.Proofs.Store.Transaction

/-!
# Transitions saved one after another

A store of either kind takes one transition after another, whatever they hold, and may refuse some
of them.  After every call its incidents are in order (`Backend.Orderly`): ids are kept once, a
component is the root of one open incident at most, and those are what a pass loads.
`Backend.orderly_afterAll` says so, and that later calls lose no incident, leave alone what is over,
and change nothing when they are refused.

Saving the same transition again need not be without effect.  A new incident whose root has an open
one is passed over, and the same transition may end that one.  `Backend.saved_again_iff` says when
exactly nothing changes.
-/

namespace Cascade.Store

open Time

/-- A call that saves a transition. -/
structure Saving where
  /-- Whether a store within the program is told to refuse. -/
  refused : Bool
  transition : Transition

namespace Backend

/-- A store after it is told whether to refuse incidents.  Durable tables cannot be told. -/
def told (refused : Bool) : Backend → Backend
  | memory m => memory { m with incidentsClosed := refused }
  | durable t => durable t

/-- Saves a transition, and gives the store as the call leaves it. -/
def attempt (c : Saving) : Backend → Except StoreError Unit × Backend
  | memory m =>
    let m := { m with incidentsClosed := c.refused }
    match m.saveTransition c.transition with
    | .ok m => (.ok (), memory m)
    | .error e => (.error e, memory m)
  | durable t =>
    let (answer, t) := t.transact c.transition
    (answer, durable t)

def afterAll (b : Backend) (calls : List Saving) : Backend :=
  calls.foldl (fun b c ↦ (b.attempt c).2) b

/-- Why a call is refused: a store within the program is told to, or a date in one of the entries
does not fit the column of a table. -/
inductive Refuses (b : Backend) (c : Saving) : StoreError → Prop
  /-- The store is told to refuse. -/
  | told (kind : b.isDurable = false) (refused : c.refused = true) :
      Refuses b c (.unavailable .incidents)
  /-- A date of an entry, whichever it is, does not fit. -/
  | beyond {i : Incident} {t : Instant} (kind : b.isDurable = true)
      (entry : i ∈ c.transition.opened ++ c.transition.resolved) (dated : i.Dated t)
      (beyond : t.toWord? = none) : Refuses b c (.timestampOutOfRange t)

/-- A store whose incidents are in order, with those that it holds. -/
structure Orderly (b : Backend) (l : List Incident) : Prop where
  /-- They can be read. -/
  incidents : b.incidents = .ok l
  /-- No id is kept twice, and no component is the root of two open incidents. -/
  tidy : Filing.Tidy l
  /-- A pass loads the open ones, each under its root. -/
  active : ∃ active, Backend.access.loadActive b = .ok active ∧
    ∀ root i, active.get? root = some i ↔ i ∈ l ∧ i.isOpen = true ∧ i.root = root

variable {b b' : Backend} {l : List Incident} {c : Saving} {e : StoreError} {refused : Bool}

@[simp] theorem isDurable_told : (b.told refused).isDurable = b.isDurable := by
  cases b <;> rfl

@[simp] theorem filing_told : (b.told refused).filing = b.filing := by
  rw [filing, isDurable_told, filing]

theorem filing_congr (kind : b'.isDurable = b.isDurable) : b'.filing = b.filing := by
  rw [filing, kind, filing]

/-- A store within the program keeps every new incident, and tables those whose dates fit. -/
theorem checkNew_filing_iff {i : Incident} : b.filing.checkNew i = .ok () ↔
    (b.isDurable = true → ∀ t, i.Dated t → t.toWord? ≠ none) := by
  cases b with
  | memory m => exact ⟨fun _ kind ↦ Bool.noConfusion kind, fun _ ↦ rfl⟩
  | durable t => exact Filing.columns_checkNew_eq_ok_iff.trans ⟨fun h _ ↦ h, fun h ↦ h rfl⟩

theorem refusesIncidents_told :
    (b.told refused).refusesIncidents = (!b.isDurable && refused) := by
  cases b <;> rfl

theorem keeps_told : (b.told refused).Keeps l ↔ b.Keeps l := by
  cases b <;> rfl

/-- A call saves a transition, or leaves the store as it was told. -/
theorem attempt_eq : b.attempt c =
    match (b.told c.refused).saveTransition c.transition with
    | .ok b' => (.ok (), b')
    | .error e => (.error e, b.told c.refused) := by
  cases b with
  | memory m =>
    rw [attempt, told, saveTransition]
    cases Memory.saveTransition c.transition { m with incidentsClosed := c.refused } <;> rfl
  | durable t =>
    rw [attempt, told, saveTransition]
    simp only [Tables.transact_eq]
    cases t.saveTransition c.transition <;> rfl

theorem isDurable_attempt {answer : Except StoreError Unit} (went : b.attempt c = (answer, b')) :
    b'.isDurable = b.isDurable := by
  rw [attempt_eq] at went
  split at went
  · rename_i saved
    cases went
    exact (isDurable_saveTransition saved).trans isDurable_told
  · cases went
    exact isDurable_told

/-! ### One call -/

/-- A store that is not told to refuse takes what the list of its incidents takes. -/
theorem Keeps.attempt_of_save {t : Transition} {l' : List Incident} (keeps : b.Keeps l)
    (saved : b.filing.save t l = .ok l') :
    ∃ b', b.attempt ⟨false, t⟩ = (.ok (), b') ∧ b'.Keeps l' := by
  have takes : (b.told false).refusesIncidents = false := by simp [refusesIncidents_told]
  have alike := (keeps_told.2 keeps).saveTransition t takes
  rw [filing_told, saved] at alike
  rw [attempt_eq]
  generalize (b.told false).saveTransition t = answer at alike
  cases alike with
  | ok related => exact ⟨_, rfl, related⟩

theorem Keeps.of_attempt (keeps : b.Keeps l) (went : b.attempt c = (.ok (), b')) :
    ∃ l', b.filing.save c.transition l = .ok l' ∧ b'.Keeps l' := by
  rw [attempt_eq] at went
  split at went
  · rename_i saved
    cases went
    have taken := (keeps_told.2 keeps).of_saveTransition saved
    rwa [filing_told] at taken
  · cases went

/-- A refused call has a cause, and leaves the incidents. -/
theorem Keeps.of_attempt_error (keeps : b.Keeps l) (went : b.attempt c = (.error e, b')) :
    b'.Keeps l ∧ b.Refuses c e := by
  rw [attempt_eq] at went
  split at went
  · cases went
  · rename_i e' refused
    cases went
    refine ⟨keeps_told.2 keeps, ?_⟩
    rcases (keeps_told.2 keeps).of_saveTransition_error refused with
      ⟨closed, rfl⟩ | ⟨kind, i, entry, t, dated, beyond, rfl⟩
    · rw [refusesIncidents_told, Bool.and_eq_true, Bool.not_eq_true'] at closed
      exact .told closed.1 closed.2
    · exact .beyond (isDurable_told ▸ kind) entry dated beyond

/-! ### Calls one after another -/

/-- What a call does to the incidents. -/
theorem Keeps.attempt (keeps : b.Keeps l) (c : Saving) :
    ∃ l', (b.attempt c).2.Keeps l' ∧ Filing.Onward l l' ∧
      ((∀ i ∈ c.transition.resolved, i.isOpen = false) → Filing.Tidy l → Filing.Tidy l') := by
  rcases went : b.attempt c with ⟨_ | ⟨⟨⟩⟩, b'⟩
  · exact ⟨l, (keeps.of_attempt_error went).1, .refl l, fun _ tidy ↦ tidy⟩
  · obtain ⟨l', saved, keeps'⟩ := keeps.of_attempt went
    exact ⟨l', keeps', Filing.onward_save saved, fun closed tidy ↦ tidy.save closed saved⟩

/-- What calls do to the incidents. -/
theorem Keeps.afterAll (keeps : b.Keeps l) (calls : List Saving) :
    ∃ l', (b.afterAll calls).Keeps l' ∧ Filing.Onward l l' ∧
      ((∀ c ∈ calls, ∀ i ∈ c.transition.resolved, i.isOpen = false) →
        Filing.Tidy l → Filing.Tidy l') := by
  induction calls generalizing b l with
  | nil => exact ⟨l, keeps, .refl l, fun _ tidy ↦ tidy⟩
  | cons c calls ih =>
    obtain ⟨mid, keeps, on, first⟩ := keeps.attempt c
    obtain ⟨l', keeps, on', rest⟩ := ih keeps
    refine ⟨l', keeps, on.trans on', fun closed tidy ↦ ?_⟩
    obtain ⟨closedFirst, closedRest⟩ := List.forall_mem_cons.1 closed
    exact rest closedRest (first closedFirst tidy)

/-- A store that shows no incidents keeps none. -/
theorem keeps_nil (blank : b.incidents = .ok []) : b.Keeps [] := by
  cases b with
  | memory m =>
    have none : m.book.incidents.entries = [] := List.map_eq_nil_iff.1 (Except.ok.inj blank)
    refine ⟨List.nodup_nil, ?_⟩
    intro id i
    rw [IdMap.get?_eq_some_iff, none]
    rfl
  | durable t =>
    have rows := mapM_eq_ok_iff.1 blank
    rw [List.forall₂_nil_right_iff] at rows
    exact ⟨rows, fun i hi ↦ absurd hi List.not_mem_nil⟩

theorem Keeps.orderly (keeps : b.Keeps l) (tidy : Filing.Tidy l) :
    ∃ kept, b.Orderly kept ∧ kept.Perm l := by
  obtain ⟨kept, read, perm⟩ := keeps.exists_incidents
  obtain ⟨active, loaded, mem⟩ := keeps.exists_active tidy
  refine ⟨kept, ⟨read, tidy.perm perm.symm, active, loaded, fun root i ↦ ?_⟩, perm⟩
  rw [mem, perm.mem_iff]

theorem afterAll_append (calls later : List Saving) :
    b.afterAll (calls ++ later) = (b.afterAll calls).afterAll later := List.foldl_append

/-- After calls on a store without incidents, whichever of them were refused, its incidents are in
order if all ends were ends.  Later calls lose none of them and leave alone what is over, and a call
that is refused leaves all of them. -/
theorem orderly_afterAll (blank : b.incidents = .ok []) (calls later : List Saving)
    (closed : ∀ c ∈ calls ++ later, ∀ i ∈ c.transition.resolved, i.status = .resolved) :
    ∃ l l', (b.afterAll calls).Orderly l ∧ (b.afterAll (calls ++ later)).Orderly l' ∧
      (∀ i ∈ l, ∃ j ∈ l', j.id = i.id ∧ (i.isOpen = false → j = i)) ∧
      ∀ c e b', (b.afterAll calls).attempt c = (.error e, b') →
        (b.afterAll calls).Refuses c e ∧ b'.Orderly l := by
  have ends : ∀ c ∈ calls ++ later, ∀ i ∈ c.transition.resolved, i.isOpen = false := by
    intro c hc i hi
    rw [Incident.isOpen, closed c hc i hi]
    rfl
  obtain ⟨l, keeps, -, tidy⟩ := (keeps_nil blank).afterAll calls
  obtain ⟨l', keeps', on, tidy'⟩ := keeps.afterAll later
  replace tidy := tidy (fun c hc ↦ ends c (List.mem_append_left _ hc)) .nil
  replace tidy' := tidy' (fun c hc ↦ ends c (List.mem_append_right _ hc)) tidy
  obtain ⟨kept, orderly, perm⟩ := keeps.orderly tidy
  obtain ⟨kept', orderly', perm'⟩ := keeps'.orderly tidy'
  rw [← afterAll_append] at orderly'
  refine ⟨kept, kept', orderly, orderly', on.perm perm perm', ?_⟩
  intro c e b' went
  obtain ⟨left, cause⟩ := keeps.of_attempt_error went
  obtain ⟨incidents, active⟩ := keeps.reads_eq left (isDurable_attempt went)
  exact ⟨cause, incidents.trans orderly.incidents, orderly.tidy, active ▸ orderly.active⟩

namespace Handover

def root : ComponentId := ⟨List.replicate 16 7, rfl⟩

/-- The incident of it that begins first. -/
def first : Incident := .begin ⟨List.replicate 16 8, rfl⟩ root (.ofNanos 0)

def second : Incident := .begin ⟨List.replicate 16 9, rfl⟩ root (.ofNanos 1)

/-- The first instant that does not fit a column. -/
def tooLate : Instant := .ofNanos (2 ^ 63)

/-- The call with which the first begins. -/
def onset : Saving := ⟨false, ⟨[first], []⟩⟩

/-- A call that ends the first, and then fails at the end of the second. -/
def failing : Saving := ⟨false, ⟨[], [first.resolve (.ofNanos 1), second.resolve tooLate]⟩⟩

/-- The first ends and the second begins. -/
def handover : Transition := ⟨[second], [first.resolve (.ofNanos 1)]⟩

/-- Between the beginning and the end of the first, a call fails at its last entry. -/
theorem orderly_failing : ∃ l l',
    ((durable .empty).afterAll [onset]).Orderly l ∧
    ((durable .empty).afterAll [onset, failing, ⟨false, handover⟩]).Orderly l' ∧
    (∀ i ∈ l, ∃ j ∈ l', j.id = i.id ∧ (i.isOpen = false → j = i)) ∧
    ∃ b', ((durable .empty).afterAll [onset]).attempt failing =
        (.error (.timestampOutOfRange tooLate), b') ∧
      ((durable .empty).afterAll [onset]).Refuses failing (.timestampOutOfRange tooLate) ∧
      b'.Orderly l := by
  obtain ⟨l, l', orderly, orderly', on, spares⟩ :=
    orderly_afterAll (b := durable .empty) rfl [onset] [failing, ⟨false, handover⟩] (by decide)
  have refused : (((durable .empty).afterAll [onset]).attempt failing).1 =
      .error (.timestampOutOfRange tooLate) := by
    cbv
  exact ⟨l, l', orderly, orderly', on, _, Prod.ext refused rfl,
    spares failing _ _ (Prod.ext refused rfl)⟩

end Handover

/-- A transition that was saved is saved again without effect exactly if each of its new incidents
finds an open one of its root, or its id known and nothing to refuse. -/
theorem saved_again_iff (blank : b.incidents = .ok []) (calls : List Saving) {t : Transition}
    {b₁ : Backend} (saved : (b.afterAll calls).attempt ⟨false, t⟩ = (.ok (), b₁)) :
    ∃ l₁, b₁.incidents = .ok l₁ ∧
      ((∃ b₂, b₁.attempt ⟨false, t⟩ = (.ok (), b₂) ∧ b₂.incidents = .ok l₁ ∧
          Backend.access.loadActive b₂ = Backend.access.loadActive b₁) ↔
        ∀ i ∈ t.opened, (∃ k ∈ l₁, k.isOpen = true ∧ k.root = i.root) ∨
          ((∃ k ∈ l₁, k.id = i.id) ∧
            (b₁.isDurable = true → ∀ t, i.Dated t → t.toWord? ≠ none))) := by
  obtain ⟨l, keeps, -⟩ := (keeps_nil blank).afterAll calls
  obtain ⟨l₁, save, keeps₁⟩ := keeps.of_attempt saved
  obtain ⟨kept, read, perm⟩ := keeps₁.exists_incidents
  rw [← filing_congr (isDurable_attempt saved)] at save
  have stands_iff (i : Incident) : b₁.filing.Stands l₁ i ↔
      (∃ k ∈ kept, k.isOpen = true ∧ k.root = i.root) ∨
        ((∃ k ∈ kept, k.id = i.id) ∧
          (b₁.isDurable = true → ∀ t, i.Dated t → t.toWord? ≠ none)) := by
    simp only [Filing.Stands, Filing.hasOpen_iff, Filing.knows_iff, perm.mem_iff,
      checkNew_filing_iff, and_comm]
  refine ⟨kept, read, ?_⟩
  simp only [← stands_iff]
  constructor
  · rintro ⟨b₂, again, read₂, -⟩
    obtain ⟨l₂, save₂, keeps₂⟩ := keeps₁.of_attempt again
    obtain ⟨kept₂, read₂', perm₂⟩ := keeps₂.exists_incidents
    obtain rfl := Except.ok.inj (read₂.symm.trans read₂')
    exact Filing.stands_of_save_again save₂ (perm₂.length_eq.symm.trans perm.length_eq)
  · intro stands
    obtain ⟨b₂, again, keeps₂⟩ := keeps₁.attempt_of_save (Filing.save_again save stands)
    obtain ⟨incidents, active⟩ := keeps₁.reads_eq keeps₂ (isDurable_attempt again)
    exact ⟨b₂, again, incidents.trans read, active⟩

namespace Handover

/-- The store in which the first incident began and has ended. -/
def ended : Backend := (((memory .empty).afterAll [onset]).attempt ⟨false, handover⟩).2

/-- With the transition in which the first incident ends and the second begins, the second is passed
over.  The same transition again files it. -/
theorem not_saved_again :
    ((memory .empty).afterAll [onset]).attempt ⟨false, handover⟩ = (.ok (), ended) ∧
    ended.incidents = .ok [first.resolve (.ofNanos 1)] ∧
    (ended.attempt ⟨false, handover⟩).2.incidents = .ok [first.resolve (.ofNanos 1), second] ∧
    ¬ ∃ b, ended.attempt ⟨false, handover⟩ = (.ok (), b) ∧ b.incidents = ended.incidents ∧
      Backend.access.loadActive b = Backend.access.loadActive ended := by
  have saved : ((memory .empty).afterAll [onset]).attempt ⟨false, handover⟩ = (.ok (), ended) :=
    rfl
  obtain ⟨l, read, iff⟩ := saved_again_iff (b := memory .empty) rfl [onset] saved
  have kept : ended.incidents = .ok [first.resolve (.ofNanos 1)] := by cbv
  refine ⟨saved, kept, by cbv, ?_⟩
  rw [read, iff]
  obtain rfl := Except.ok.inj (read.symm.trans kept)
  intro stands
  rcases stands second (List.mem_singleton_self _) with ⟨k, hk, open_, -⟩ | ⟨⟨k, hk, id⟩, -⟩
  · rw [List.mem_singleton.1 hk] at open_
    cases open_
  · rw [List.mem_singleton.1 hk] at id
    revert id
    decide

end Handover

end Backend

end Cascade.Store
