import Cascade.Proofs.Evaluation.Look
import Cascade.Proofs.Evaluation.Session
import Cascade.Proofs.Store.Mirror

/-!
# Either kind of store does

Signals are appended to a store, and passes run over it and record their alerts in it.  What each of
these deeds answers, and what can be read before and after it, does not hang on the kind of the
store, as long as every instant and every text that is used fits a column (`history_interchange`).
Tables that mirror a store within the program show a pass the same (`plan_congr`), and they mirror
it again after every deed (`Deed.exists_mirrors`).
-/

namespace Cascade.Evaluation

open Store Alert

/-! ## Passes that read the same -/

section

variable {σ τ : Type} {a : Access σ} {b : Access τ} {s : σ} {t : τ} {setup : Setup}
  (find : ∀ id, a.find id s = b.find id t)

include find

/-- A pass works out the same from stores that it reads the same. -/
theorem plan_congr (states : a.loadStates s = b.loadStates t)
    (active : a.loadActive s = b.loadActive t) (fresh : ComponentId → IncidentId) (dirty : IdSet)
    (now : Time.Instant) : plan a setup fresh dirty now s = plan b setup fresh dirty now t := by
  rw [plan, plan, states, active]
  simp only [lookAll_congr find fun _ _ ↦ rfl]

end

/-! ## Deeds -/

def recordAlerts : Publisher Backend := recording (.within id (fun s _ ↦ s) Backend.record)

inductive Deed where
  | append (r : SignalRecord)
  | pass (fresh : ComponentId → IncidentId) (dirty : IdSet) (now : Time.Instant)

inductive Answer where
  | append (outcome : Except StoreError AppendOutcome)
  | pass (report : Except PassError Report)

/-- What can be read from a store. -/
structure View where
  find : ComponentId → Except StoreError (List Signal)
  states : Except StoreError StateMap
  active : Except StoreError ActiveIncidents
  alerts : Except StoreError (List AlertRecord)

/-- What can be read from a store of either kind. -/
def View.of (b : Backend) : View where
  find id := Backend.access.find id b
  states := Backend.access.loadStates b
  active := Backend.access.loadActive b
  alerts := b.alerts

namespace Deed

/-- The answer to a deed and the store after it. -/
def perform (setup : Setup) : Deed → Backend → Answer × Backend
  | append r, b =>
    match b.append r with
    | .ok (outcome, b) => (.append (.ok outcome), b)
    | .error e => (.append (.error e), b)
  | pass fresh dirty now, b =>
    let (report, b) := runAnnounced Backend.access recordAlerts setup fresh dirty now b
    (.pass report, b)

/-- The instants and texts of a deed fit their columns. -/
def Fits : Deed → Prop
  | append r => r.Storable
  | pass _ _ now => now.Storable

end Deed

/-- What can be read before each deed, with the answer to it, and what can be read at the end. -/
def history (setup : Setup) : List Deed → Backend → List (View × Option Answer)
  | [], b => [(.of b, none)]
  | d :: deeds, b =>
    let (answer, b') := d.perform setup b
    (.of b, some answer) :: history setup deeds b'

/-! ## Tables that mirror a store within the program -/

section

variable {setup : Setup} {fresh : ComponentId → IncidentId} {dirty : IdSet} {now : Time.Instant}
  {m : Memory} {t : Tables}

theorem view_of_mirrors (mirrors : Mirrors m t) : View.of (.memory m) = View.of (.durable t) := by
  simp only [View.of, Backend.access, Backend.alerts, Memory.access, Tables.access, mirrors.find,
    mirrors.loadStates, mirrors.loadActive, mirrors.readAlerts]

theorem plan_of_mirrors (mirrors : Mirrors m t) :
    plan Backend.access setup fresh dirty now (.memory m) =
      plan Backend.access setup fresh dirty now (.durable t) := by
  have view := view_of_mirrors mirrors
  exact plan_congr (congrFun (congrArg View.find view)) (congrArg View.states view)
    (congrArg View.active view) fresh dirty now

/-- What a pass detects at an instant that fits can be saved on both sides. -/
theorem suits_detect {g : Graph} {previous current : StateMap} (mirrors : Mirrors m t)
    (fits : now.Storable) :
    Suits m.book.incidents (Incident.detect fresh g previous current m.book.active now) := by
  have tidy := mirrors.incidents.tidy
  refine ⟨?_, ?_, ?_, ?_⟩
  · intro i hi
    obtain ⟨c, -, -, rfl⟩ := Incident.mem_opened.1 hi
    exact ⟨fits, by rintro _ ⟨⟩⟩
  all_goals
    intro i hi
    obtain ⟨c, -, -, j, active, rfl⟩ := Incident.mem_resolved.1 hi
    obtain ⟨stored, -, -⟩ := tidy.get?_active.1 active
  · refine ⟨(mirrors.incidents.storable stored).startedAt, ?_⟩
    rintro _ ⟨⟩
    exact fits
  · rfl
  · exact ⟨j, stored, rfl, rfl⟩

/-- What a pass works out is written on both sides. -/
theorem exists_mirrors_commit {r : Report} (mirrors : Mirrors m t)
    (suits : Suits m.book.incidents r.transition) :
    ∃ m' t', commit Backend.access r (.memory m) = (.ok (), .memory m') ∧
      commit Backend.access r (.durable t) = (.ok (), .durable t') ∧ Mirrors m' t' := by
  obtain ⟨m', t', kept, durable, mirrors'⟩ := mirrors.saveTransition suits
  obtain ⟨m'', states, mirrors''⟩ := mirrors'.saveStates r.effective
  refine ⟨m'', t'.saveStates r.effective, ?_, ?_, mirrors''⟩
  · simp only [commit, Backend.access, Backend.saveTransition, kept, Except.map,
      Backend.saveStates, states]
  · simp only [commit, Backend.access, Backend.saveTransition, durable, Except.map,
      Backend.saveStates]

theorem exists_mirrors_run (setup : Setup) (fresh : ComponentId → IncidentId) (dirty : IdSet)
    (mirrors : Mirrors m t) (fits : now.Storable) :
    ∃ answer m' t', run Backend.access setup fresh dirty now (.memory m) = (answer, .memory m') ∧
      run Backend.access setup fresh dirty now (.durable t) = (answer, .durable t') ∧
      Mirrors m' t' := by
  rw [run, run, ← plan_of_mirrors mirrors]
  cases planned : plan Backend.access setup fresh dirty now (.memory m) with
  | error e => exact ⟨.error e, m, t, rfl, rfl, mirrors⟩
  | ok r =>
    obtain ⟨stored, active, -, incidents, -, -, -, transition⟩ := of_plan planned
    cases incidents
    obtain ⟨m', t', kept, durable, mirrors'⟩ :=
      exists_mirrors_commit mirrors (transition ▸ suits_detect mirrors fits)
    refine ⟨.ok r, m', t', ?_, ?_, mirrors'⟩
    · simp only [kept]
    · simp only [durable]

/-- What a pass announces is recorded on both sides. -/
theorem exists_mirrors_recordAlerts (a : Announcement) (mirrors : Mirrors m t)
    (fits : a.now.Storable) :
    ∃ m' t', (recordAlerts a (.memory m)).2 = .memory m' ∧
      (recordAlerts a (.durable t)).2 = .durable t' ∧ Mirrors m' t' := by
  rw [recordAlerts, recording, recording]
  split
  · exact ⟨m, t, rfl, rfl, mirrors⟩
  · have sent : ∀ r ∈ a.transition.alerts.map (AlertRecord.internal a.now), r.Storable := by
      intro r hr
      obtain ⟨x, -, rfl⟩ := List.mem_map.1 hr
      exact ⟨fits, by rintro _ ⟨⟩⟩
    obtain ⟨m', t', kept, durable, mirrors'⟩ := mirrors.record sent
    refine ⟨m', t', ?_, ?_, mirrors'⟩
    · simp only [Recorder.within, id, Backend.record, kept, Except.map]
    · simp only [Recorder.within, id, Backend.record, durable, Except.map]

/-- A deed answers the same over both kinds of stores, and the tables mirror what is kept within the
program again. -/
theorem Deed.exists_mirrors (setup : Setup) {d : Deed} (mirrors : Mirrors m t) (fits : d.Fits) :
    ∃ answer m' t', d.perform setup (.memory m) = (answer, .memory m') ∧
      d.perform setup (.durable t) = (answer, .durable t') ∧ Mirrors m' t' := by
  cases d with
  | append r =>
    obtain ⟨t', appended, mirrors'⟩ := mirrors.append fits
    refine ⟨_, _, t', rfl, ?_, mirrors'⟩
    simp only [perform, Backend.append, appended, Except.map]
  | pass fresh dirty now =>
    obtain ⟨answer, m', t', kept, durable, mirrors'⟩ :=
      exists_mirrors_run setup fresh dirty mirrors fits
    simp only [perform, runAnnounced, kept, durable]
    cases answer with
    | error e => exact ⟨_, m', t', rfl, rfl, mirrors'⟩
    | ok r =>
      obtain ⟨m'', t'', told, recorded, mirrors''⟩ :=
        exists_mirrors_recordAlerts ⟨r.transition, r.effective, setup.graph, now⟩ mirrors' fits
      exact ⟨_, m'', t'', by rw [told], by rw [recorded], mirrors''⟩

theorem history_of_mirrors {deeds : List Deed} (mirrors : Mirrors m t)
    (fits : ∀ d ∈ deeds, d.Fits) :
    history setup deeds (.memory m) = history setup deeds (.durable t) := by
  induction deeds generalizing m t with
  | nil => rw [history, history, view_of_mirrors mirrors]
  | cons d deeds ih =>
    obtain ⟨first, rest⟩ := List.forall_mem_cons.1 fits
    obtain ⟨answer, m', t', kept, durable, mirrors'⟩ := d.exists_mirrors setup mirrors first
    rw [history, history, kept, durable, view_of_mirrors mirrors]
    exact congrArg _ (ih mirrors' rest)

end

/-- From empty stores, the same deeds are answered the same, and the same can be read before and
after each of them, whatever kind of store it is and whatever components and dependencies the tables
declare. -/
theorem history_interchange (setup : Setup) (deeds : List Deed) (fits : ∀ d ∈ deeds, d.Fits)
    (components : List ComponentRow) (dependencies : List (String × String)) :
    history setup deeds (.memory .empty) =
      history setup deeds (.durable { Tables.empty with components, dependencies }) :=
  history_of_mirrors (.empty components dependencies) fits

namespace Interchange

open Pair

/-- A critical signal about the upper component, which comes twice under one key. -/
def alarm : Deed := .append { signal upper .critical 0 with key := some "alarm" }

/-- Both components fall ill, and two minutes later the upper one is well again. -/
def deeds : List Deed :=
  [alarm, alarm, .pass id (IdMap.setOf [upper, lower]) (secondAt 0),
    .append (signal upper .info 120), .pass id (IdMap.setOf [upper]) (secondAt 120)]

/-- What is announced of the incident, which has the id of its root. -/
def told (kind : AlertKind) (second : Int) : AlertRecord :=
  ⟨upper, kind, secondAt second, .internal, none⟩

theorem storable_secondAt {second : Int} (least : -9000000000 ≤ second)
    (greatest : second ≤ 9000000000) : (secondAt second).Storable := by
  have whole : second * 1000000000 % 1000000000 = 0 := Int.mul_emod_left ..
  refine ⟨?_, ?_, ?_⟩
  · simp [secondAt, Time.Instant.isLeap, Time.Instant.ofNanos, whole]
  all_goals
    rw [secondAt, Time.Instant.toNanos_ofNanos]
    simp only [Time.Instant.wordMin, Time.Instant.wordMax]
    omega

/-- The second of two signals with one key is refused, and the incident opens and ends, whichever
kind of store it is. -/
theorem history_interchange_alarm : (∀ d ∈ deeds, d.Fits) ∧
    history Pair.setup deeds (.memory .empty) = history Pair.setup deeds (.durable .empty) ∧
    ((history Pair.setup deeds (.memory .empty)).map (·.2))[1]? =
      some (some (.append (.ok .duplicate))) ∧
    (history Pair.setup deeds (.memory .empty)).map (·.1.alerts) =
      [.ok [], .ok [], .ok [], .ok [told .opened 0], .ok [told .opened 0],
        .ok [told .opened 0, told .resolved 120]] := by
  have fits : ∀ d ∈ deeds, d.Fits := by
    have start : (secondAt 0).Storable := storable_secondAt (by decide) (by decide)
    have later : (secondAt 120).Storable := storable_secondAt (by decide) (by decide)
    have alarmed : alarm.Fits := ⟨start, start, by simp [Text.Storable, signal],
      by rintro _ ⟨⟩; simp [Text.Storable]⟩
    simp only [deeds, List.forall_mem_cons]
    exact ⟨alarmed, alarmed, start, ⟨later, later, by simp [Text.Storable, signal], by rintro _ ⟨⟩⟩,
      later, by simp⟩
  refine ⟨fits, history_interchange Pair.setup deeds fits [] [], ?_, ?_⟩
  · cbv
  · cbv

end Interchange

end Cascade.Evaluation
