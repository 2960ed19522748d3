import Cascade.Evaluation.Announced
import Cascade.Proofs.Except
import Cascade.Proofs.Incident.Detection
import Cascade.Proofs.State.Propagation

/-!
# Passes over stores that fail

Before a pass signals may come in, and each of its calls to the store may fail.  A pass ends in one
of three ways: it writes nothing, it writes its incidents but not its states, or it writes and
announces everything (`Ending`).

`Attempt.run_eq_ok_iff` says that the third ending is the one that answers a report,
`Attempt.planned` what a report holds, and `Attempt.run_snd` what each ending leaves in the store.
-/

namespace Cascade.Evaluation

open Store Alert

/-! ## Stores that fail -/

/-- The calls of a pass to its store that fail, each with its cause. -/
structure Faults where
  find : ComponentId → Option StoreError
  loadStates : Option StoreError
  loadActive : Option StoreError
  saveTransition : Option StoreError
  saveStates : Option StoreError

def Faults.none : Faults := ⟨fun _ ↦ .none, .none, .none, .none, .none⟩

/-- The answer of a call, unless the call fails. -/
def failing {α : Type} : Option StoreError → Except StoreError α → Except StoreError α
  | .none, answer => answer
  | some e, _ => .error e

theorem failing_eq_ok_iff {α : Type} {fault : Option StoreError} {answer : Except StoreError α}
    {a : α} : failing fault answer = .ok a ↔ fault = .none ∧ answer = .ok a := by
  cases fault with
  | none => simp [failing]
  | some e => simp [failing]

/-- Access to a store some of whose calls fail. -/
def Faults.over {σ : Type} (f : Faults) (a : Access σ) : Access σ where
  find id s := failing (f.find id) (a.find id s)
  loadStates s := failing f.loadStates (a.loadStates s)
  loadActive s := failing f.loadActive (a.loadActive s)
  saveStates states s := failing f.saveStates (a.saveStates states s)
  saveTransition t s := failing f.saveTransition (a.saveTransition t s)

/-! ## How a pass ends -/

inductive Ending where
  /-- Before anything is written. -/
  | unwritten (cause : PassError)
  /-- With its incidents written, but not its states. -/
  | torn (report : Report) (cause : StoreError)
  | done (report : Report)

namespace Ending

def answer : Ending → Except PassError Report
  | unwritten e => .error e
  | torn _ e => .error (.store e)
  | done r => .ok r

def report? : Ending → Option Report
  | unwritten _ => none
  | torn r _ => some r
  | done r => some r

def saved (e : Ending) : Transition := (e.report?.map (·.transition)).getD .none

def announced : Ending → Transition
  | done r => r.transition
  | _ => .none

def states : Ending → StateMap
  | done r => r.effective
  | _ => ∅

variable {e : Ending} {r : Report}

theorem report?_of_torn {cause : StoreError} (h : e = .torn r cause) : e.report? = some r := by
  rw [h]
  rfl

theorem report?_of_done (h : e = .done r) : e.report? = some r := by
  rw [h]
  rfl

theorem saved_of_report? (h : e.report? = some r) : e.saved = r.transition := by
  rw [saved, h]
  rfl

theorem saved_of_report?_eq_none (h : e.report? = none) : e.saved = .none := by
  rw [saved, h]
  rfl

end Ending

def ending {σ : Type} (a : Access σ) (setup : Setup) (fresh : ComponentId → IncidentId)
    (dirty : IdSet) (now : Time.Instant) (s : σ) : Ending :=
  match plan a setup fresh dirty now s with
  | .error e => .unwritten e
  | .ok r =>
    match a.saveTransition r.transition s with
    | .error e => .unwritten (.store e)
    | .ok s =>
      match a.saveStates r.effective s with
      | .error e => .torn r e
      | .ok _ => .done r

/-- A pass answers what its ending says. -/
theorem answer_ending {σ : Type} (a : Access σ) (setup : Setup)
    (fresh : ComponentId → IncidentId) (dirty : IdSet) (now : Time.Instant) (s : σ) :
    (run a setup fresh dirty now s).1 = (ending a setup fresh dirty now s).answer := by
  unfold run ending commit
  cases plan a setup fresh dirty now s with
  | error e => rfl
  | ok r =>
    dsimp only
    cases a.saveTransition r.transition s with
    | error e => rfl
    | ok s =>
      dsimp only
      cases a.saveStates r.effective s with
      | error e => rfl
      | ok s => rfl

/-- A pass that answers a report has planned it. -/
theorem plan_of_run {σ : Type} {a : Access σ} {setup : Setup} {fresh : ComponentId → IncidentId}
    {dirty : IdSet} {now : Time.Instant} {s : σ} {r : Report}
    (ok : (run a setup fresh dirty now s).1 = .ok r) : plan a setup fresh dirty now s = .ok r := by
  rw [answer_ending, ending] at ok
  split at ok
  · cases ok
  · rename_i planned
    split at ok
    · cases ok
    · split at ok
      · cases ok
      · cases ok
        exact planned

/-- What a pass that can plan has read, and what it makes of it. -/
theorem of_plan {σ : Type} {a : Access σ} {setup : Setup} {fresh : ComponentId → IncidentId}
    {dirty : IdSet} {now : Time.Instant} {s : σ} {r : Report}
    (h : plan a setup fresh dirty now s = .ok r) :
    ∃ stored active, a.loadStates s = .ok stored ∧ a.loadActive s = .ok active ∧
      lookAll a setup (withDefaults setup.graph stored) now s dirty.keys ∅ = .ok r.isolated ∧
      r.effective =
        State.propagate setup.graph ((withDefaults setup.graph stored).override r.isolated) ∧
      r.rootCauses = State.rootCauses setup.graph r.effective ∧
      r.transition = Incident.detect fresh setup.graph (withDefaults setup.graph stored)
        r.effective active now := by
  unfold plan at h
  cases states : a.loadStates s with
  | error e =>
    rw [states] at h
    cases h
  | ok stored =>
    cases incidents : a.loadActive s with
    | error e =>
      rw [states, incidents] at h
      cases h
    | ok active =>
      cases looked : lookAll a setup (withDefaults setup.graph stored) now s dirty.keys ∅ with
      | error e =>
        rw [states, incidents] at h
        simp [ofStore, bind, Except.bind, looked] at h
      | ok isolated =>
        rw [states, incidents] at h
        simp only [ofStore, bind, Except.bind, looked, pure, Except.pure, Except.ok.injEq] at h
        subst h
        exact ⟨stored, active, rfl, rfl, looked, rfl, rfl, rfl⟩

theorem stateOf_withDefaults (g : Graph) (states : StateMap) (id : ComponentId) :
    (withDefaults g states).stateOf id = states.stateOf id := by
  have go : ∀ (l : List ComponentId) (m : StateMap),
      (l.foldl (fun m id ↦ if m.contains id then m else m.insert id .unknown) m).stateOf id =
        m.stateOf id := by
    intro l
    induction l with
    | nil => exact fun _ ↦ rfl
    | cons k l ih =>
      intro m
      rw [List.foldl_cons, ih]
      split
      · rfl
      · rename_i absent
        by_cases h : k = id
        · subst h
          have none : m.get? k = none := IdMap.not_mem_iff.1 absent
          simp [StateMap.stateOf, none]
        · simp [StateMap.stateOf, h]
  exact go _ _

theorem mem_withDefaults {g : Graph} {states : StateMap} {id : ComponentId} :
    id ∈ withDefaults g states ↔ id ∈ states ∨ id ∈ g := by
  have go : ∀ (l : List ComponentId) (m : StateMap),
      id ∈ l.foldl (fun m id ↦ if m.contains id then m else m.insert id .unknown) m ↔
        id ∈ m ∨ id ∈ l := by
    intro l
    induction l with
    | nil => simp
    | cons k l ih =>
      intro m
      rw [List.foldl_cons, ih, List.mem_cons, ← or_assoc]
      refine or_congr_left ?_
      split
      · rename_i present
        constructor
        · exact .inl
        · rintro (h | rfl)
          · exact h
          · exact present
      · rw [IdMap.mem_def, IdMap.get?_insert, IdMap.mem_def]
        by_cases h : k = id
        · simp [h]
        · simp [h, Ne.symm h]
  rw [withDefaults, go, Graph.components, IdMap.mem_keys]
  rfl

/-- Where every component of the graph has a state, none is put in. -/
theorem withDefaults_eq_self {g : Graph} {states : StateMap} (h : ∀ id, id ∈ g → id ∈ states) :
    withDefaults g states = states := by
  have go : ∀ l : List ComponentId, (∀ id ∈ l, id ∈ states) →
      l.foldl (fun m id ↦ if m.contains id then m else m.insert id .unknown) states = states := by
    intro l
    induction l with
    | nil => exact fun _ ↦ rfl
    | cons k l ih =>
      intro all
      obtain ⟨present, rest⟩ := List.forall_mem_cons.1 all
      have known : states.contains k = true := present
      rw [List.foldl_cons, if_pos known, ih rest]
  exact go _ fun id hid ↦ h id (IdMap.mem_keys.1 hid)

/-! ## One pass -/

/-- Signals that come in, and the pass after them. -/
structure Attempt where
  arrivals : List SignalRecord
  dirty : IdSet
  now : Time.Instant
  fresh : ComponentId → IncidentId
  faults : Faults

/-- Keeps a record of every alert within the program. -/
def announce : Publisher Memory := recording (.within id (fun m _ ↦ m) Memory.record)

/-- A record is kept of every alert. -/
theorem announce_snd (a : Announcement) {m : Memory} (recorder : m.recorderClosed = false) :
    (announce a m).2 =
      { m with alerts := m.alerts ++ a.transition.alerts.map (.internal a.now) } := by
  unfold announce recording
  split
  · rename_i empty
    have none : a.transition.alerts = [] := by
      simpa [Transition.isEmpty, Transition.alerts] using empty
    simp [none]
  · simp [Recorder.within, Memory.record, recorder]

/-- Announcing changes the records of alerts at most. -/
theorem announce_eq (a : Announcement) (m : Memory) :
    ∃ alerts, (announce a m).2 = { m with alerts } := by
  unfold announce recording
  split
  · exact ⟨m.alerts, rfl⟩
  · unfold Recorder.within Memory.record
    dsimp only [id]
    by_cases closed : m.recorderClosed = true
    · rw [if_pos closed]
      exact ⟨m.alerts, rfl⟩
    · rw [if_neg closed]
      exact ⟨_, rfl⟩

namespace Attempt

def takeIn (p : Attempt) (m : Memory) : Memory := p.arrivals.foldl (fun m r ↦ (m.append r).2) m

def access (p : Attempt) : Access Memory := p.faults.over Memory.access

def run (setup : Setup) (p : Attempt) (m : Memory) : Except PassError Report × Memory :=
  runAnnounced p.access announce setup p.fresh p.dirty p.now (p.takeIn m)

def ending (setup : Setup) (p : Attempt) (m : Memory) : Ending :=
  Evaluation.ending p.access setup p.fresh p.dirty p.now (p.takeIn m)

variable {setup : Setup} {p : Attempt} {m : Memory} {r : Report}

/-- Signals that come in change nothing but the signals. -/
theorem takeIn_eq (p : Attempt) (m : Memory) : ∃ log, p.takeIn m = { m with log } := by
  have go : ∀ (l : List SignalRecord) (m : Memory),
      ∃ log, l.foldl (fun m r ↦ (m.append r).2) m = { m with log } := by
    intro l
    induction l with
    | nil => exact fun m ↦ ⟨m.log, rfl⟩
    | cons r l ih => exact fun m ↦ ih _
  exact go _ _

theorem run_eq_ok_iff : (p.run setup m).1 = .ok r ↔ p.ending setup m = .done r := by
  rw [run, runAnnounced_fst, answer_ending]
  show (p.ending setup m).answer = _ ↔ _
  cases p.ending setup m with
  | unwritten e => simp [Ending.answer]
  | torn r e => simp [Ending.answer]
  | done r => simp [Ending.answer]

/-- What a pass reports. -/
structure Planned (setup : Setup) (p : Attempt) (m : Memory) (r : Report) : Prop where
  /-- The states spread from those that were kept and those that were looked at. -/
  effective : r.effective =
    State.propagate setup.graph ((withDefaults setup.graph m.states).override r.isolated)
  /-- The root causes are those of the states. -/
  rootCauses : r.rootCauses = State.rootCauses setup.graph r.effective
  /-- The transition leads from the states that were kept to the new ones. -/
  transition : r.transition = Incident.detect p.fresh setup.graph
    (withDefaults setup.graph m.states) r.effective m.book.active p.now

/-- A pass that wrote its incidents could plan. -/
theorem plan_of_report? (h : (p.ending setup m).report? = some r) :
    plan p.access setup p.fresh p.dirty p.now (p.takeIn m) = .ok r := by
  unfold ending Evaluation.ending at h
  cases eq : plan p.access setup p.fresh p.dirty p.now (p.takeIn m) with
  | error e =>
    rw [eq] at h
    cases h
  | ok r' =>
    rw [eq] at h
    dsimp only at h
    split at h
    · cases h
    · split at h
      · cases h
        rfl
      · cases h
        rfl

theorem planned (h : (p.ending setup m).report? = some r) : Planned setup p m r := by
  obtain ⟨log, took⟩ := p.takeIn_eq m
  obtain ⟨stored, active, states, incidents, -, effective, rootCauses, transition⟩ :=
    of_plan (plan_of_report? h)
  rw [took] at states incidents
  obtain ⟨-, eq⟩ := failing_eq_ok_iff.1 states
  cases eq
  obtain ⟨-, eq⟩ := failing_eq_ok_iff.1 incidents
  cases eq
  exact ⟨effective, rootCauses, transition⟩

/-- The incidents of a pass fit a tidy book, if their ids are different and unknown. -/
theorem Planned.fits (planned : Planned setup p m r) (built : setup.graph.Built)
    (tidy : IncidentBook.Tidy m.book.incidents) (ids : (r.transition.opened.map (·.id)).Nodup)
    (new : ∀ i ∈ r.transition.opened, i.id ∉ m.book.incidents) :
    IncidentBook.Fits m.book.incidents r.transition := by
  rw [planned.transition] at ids new ⊢
  exact Incident.fits_detect tidy built.nodup_order ids fun i hi ↦ IdMap.not_mem_iff.1 (new i hi)

/-! ### What a pass leaves -/

theorem saveTransition_eq_ok_iff {t : Transition} {m n : Memory} :
    p.access.saveTransition t m = .ok n ↔ p.faults.saveTransition = none ∧
      m.incidentsClosed = false ∧ n = { m with book := m.book.save t } := by
  show failing _ (m.saveTransition t) = _ ↔ _
  rw [failing_eq_ok_iff, Memory.saveTransition]
  cases m.incidentsClosed with
  | false => simp [eq_comm]
  | true => simp

theorem saveStates_eq_ok_iff {states : StateMap} {m n : Memory} :
    p.access.saveStates states m = .ok n ↔ p.faults.saveStates = none ∧
      m.statesClosed = false ∧ n = { m with states := m.states.override states } := by
  show failing _ (m.saveStates states) = _ ↔ _
  rw [failing_eq_ok_iff, Memory.saveStates]
  cases m.statesClosed with
  | false => simp [eq_comm]
  | true => simp

/-- A pass writes everything if it can plan and both its writes go through. -/
theorem ending_eq_done_iff : p.ending setup m = .done r ↔
    plan p.access setup p.fresh p.dirty p.now (p.takeIn m) = .ok r ∧
      (p.faults.saveTransition = none ∧ m.incidentsClosed = false) ∧
      p.faults.saveStates = none ∧ m.statesClosed = false := by
  obtain ⟨log, took⟩ := p.takeIn_eq m
  constructor
  · intro h
    have planned := plan_of_report? (Ending.report?_of_done h)
    unfold ending Evaluation.ending at h
    rw [planned, took] at h
    dsimp only at h
    split at h
    · cases h
    · rename_i n written
      split at h
      · cases h
      · rename_i n' stored
        obtain ⟨sure, taken, rfl⟩ := saveTransition_eq_ok_iff.1 written
        obtain ⟨sure', taken', rfl⟩ := saveStates_eq_ok_iff.1 stored
        exact ⟨planned, ⟨sure, taken⟩, sure', taken'⟩
  · rintro ⟨planned, ⟨sure, taken⟩, sure', taken'⟩
    unfold ending Evaluation.ending
    rw [planned, took]
    dsimp only
    split
    · rename_i e refused
      cases refused.symm.trans (saveTransition_eq_ok_iff.2 ⟨sure, taken, rfl⟩)
    · rename_i n written
      obtain ⟨-, -, rfl⟩ := saveTransition_eq_ok_iff.1 written
      split
      · rename_i e refused
        cases refused.symm.trans (saveStates_eq_ok_iff.2 ⟨sure', taken', rfl⟩)
      · rfl

/-- A pass is not torn where the states can be written. -/
theorem ending_ne_torn {e : StoreError} (states : p.faults.saveStates = none)
    (taken : m.statesClosed = false) : p.ending setup m ≠ .torn r e := by
  obtain ⟨log, took⟩ := p.takeIn_eq m
  intro h
  unfold ending Evaluation.ending at h
  rw [took] at h
  split at h
  · cases h
  · split at h
    · cases h
    · rename_i n written
      obtain ⟨-, -, rfl⟩ := saveTransition_eq_ok_iff.1 written
      split at h
      · rename_i e refused
        cases refused.symm.trans (saveStates_eq_ok_iff.2 ⟨states, taken, rfl⟩)
      · cases h

/-- A pass leaves the states and incidents that its ending writes, and announces what its ending
announces. -/
theorem run_eq_announce (setup : Setup) (p : Attempt) (m : Memory) :
    ∃ states, (p.run setup m).2 =
      (announce ⟨(p.ending setup m).announced, states, setup.graph, p.now⟩ { p.takeIn m with
        states := m.states.override (p.ending setup m).states
        book := m.book.save (p.ending setup m).saved }).2 := by
  obtain ⟨log, took⟩ := p.takeIn_eq m
  unfold run runAnnounced Evaluation.run ending Evaluation.ending commit
  rw [took]
  cases plan p.access setup p.fresh p.dirty p.now { m with log } with
  | error e => exact ⟨∅, rfl⟩
  | ok r =>
    dsimp only
    cases incidents : p.access.saveTransition r.transition { m with log } with
    | error e => exact ⟨∅, rfl⟩
    | ok n =>
      obtain ⟨-, -, rfl⟩ := saveTransition_eq_ok_iff.1 incidents
      dsimp only
      cases states : p.access.saveStates r.effective _ with
      | error e => exact ⟨∅, rfl⟩
      | ok n =>
        obtain ⟨-, -, rfl⟩ := saveStates_eq_ok_iff.1 states
        exact ⟨r.effective, rfl⟩

/-- Whatever becomes of the announcement, a pass leaves the states and incidents that its ending
writes. -/
theorem run_kept (setup : Setup) (p : Attempt) (m : Memory) :
    ∃ alerts, (p.run setup m).2 = { p.takeIn m with
      states := m.states.override (p.ending setup m).states
      book := m.book.save (p.ending setup m).saved
      alerts } := by
  obtain ⟨states, eq⟩ := run_eq_announce setup p m
  rw [eq]
  exact announce_eq _ _

theorem log_run : (p.run setup m).2.log = (p.takeIn m).log := by
  obtain ⟨alerts, eq⟩ := run_kept setup p m
  rw [eq]

theorem states_run : (p.run setup m).2.states = m.states.override (p.ending setup m).states := by
  obtain ⟨alerts, eq⟩ := run_kept setup p m
  rw [eq]

theorem book_run : (p.run setup m).2.book = m.book.save (p.ending setup m).saved := by
  obtain ⟨alerts, eq⟩ := run_kept setup p m
  rw [eq]

/-- Every component that had a state has one after a pass. -/
theorem Planned.mem_effective (planned : Planned setup p m r) (built : setup.graph.Built)
    {id : ComponentId} (h : id ∈ m.states ∨ id ∈ setup.graph) : id ∈ r.effective := by
  rw [planned.effective]
  by_cases mem : id ∈ setup.graph
  · exact State.mem_propagate built _ mem
  · obtain ⟨state, stored⟩ := IdMap.mem_iff.1 (mem_withDefaults.2 h)
    rw [IdMap.mem_def, State.get?_propagate built, if_neg mem, IdMap.get?_override, stored]
    cases r.isolated.get? id with
    | none => rfl
    | some found => rfl

/-- A pass that writes everything leaves the states that it reports, and no others. -/
theorem states_of_done (built : setup.graph.Built) (h : p.ending setup m = .done r) :
    (p.run setup m).2.states = r.effective := by
  rw [states_run, h]
  exact IdMap.override_eq_right fun id mem ↦
    (planned (Ending.report?_of_done h)).mem_effective built (.inl mem)

/-- Where records are taken, a pass leaves a record of every alert that its ending announces. -/
theorem run_snd (recorder : m.recorderClosed = false) :
    ∃ log, (p.run setup m).2 = { m with
      log
      states := m.states.override (p.ending setup m).states
      book := m.book.save (p.ending setup m).saved
      alerts := m.alerts ++ (p.ending setup m).announced.alerts.map (.internal p.now) } := by
  obtain ⟨log, took⟩ := p.takeIn_eq m
  obtain ⟨states, eq⟩ := run_eq_announce setup p m
  refine ⟨log, ?_⟩
  rw [eq, took]
  exact announce_snd _ recorder

end Attempt

end Cascade.Evaluation
