import Cascade.Proofs.Evaluation.Session
import Cascade.Proofs.Since
import Mathlib

/-!
# Critical components with and without an open incident

An incident opens when a component becomes critical as a root.  `Session.mem_active_iff` says that
where no pass is torn, a component has an open incident exactly as long as it stays critical after
that; so a root cause whose upstream recovered first has none
(`Session.exists_rootCause_untracked`).

A torn pass may end the incident of a component and leave the component stored as critical.
`Session.stranded_iff` says that a component that needs nothing loses its incident in this
way only, and for as long as it stays critical.
-/

namespace Cascade

theorem State.isRoot_of_upstreamOf_eq_nil {g : Graph} {c : ComponentId} (top : g.upstreamOf c = [])
    (states : StateMap) : isRoot g states c = true := by
  have nothing : g.allUpstream c = [] := by
    have next : g.upstream.next c = [] := top
    rw [Graph.allUpstream, Adjacency.reachable, next]
    cases g.upstream.edgeCount with
    | zero => rfl
    | succ n => rfl
  rw [isRoot, hasCriticalUpstream, nothing]
  rfl

namespace Evaluation

open Store

namespace Passed

/-- A component is critical in the states that the pass writes, if it writes any. -/
def Keeps (c : ComponentId) (x : Passed) : Prop :=
  ∀ r, x.ending = .done r → r.effective.isCritical c = true

/-- A component becomes critical in the pass, and needs nothing critical. -/
def Enters (g : Graph) (c : ComponentId) (x : Passed) : Prop :=
  ∃ r, x.ending = .done r ∧ x.before.states.isCritical c = false ∧
    r.effective.isCritical c = true ∧ State.isRoot g r.effective c = true

/-- The pass finds a component recovered that was stored as critical, and cannot store that. -/
def Loses (c : ComponentId) (x : Passed) : Prop :=
  ∃ r e, x.ending = .torn r e ∧ x.before.states.isCritical c = true ∧
    r.effective.isCritical c = false

section

variable {g : Graph} {c : ComponentId} {m : Memory} {r : Report}

@[simp] theorem keeps_unwritten {e : PassError} : Keeps c ⟨m, .unwritten e⟩ := by
  rintro r ⟨⟩

@[simp] theorem keeps_torn {e : StoreError} : Keeps c ⟨m, .torn r e⟩ := by
  rintro r ⟨⟩

@[simp] theorem keeps_done : Keeps c ⟨m, .done r⟩ ↔ r.effective.isCritical c = true := by
  simp [Keeps]

@[simp] theorem not_enters_unwritten {e : PassError} : ¬ Enters g c ⟨m, .unwritten e⟩ := by
  rintro ⟨r, ⟨⟩, -⟩

@[simp] theorem enters_done : Enters g c ⟨m, .done r⟩ ↔ m.states.isCritical c = false ∧
    r.effective.isCritical c = true ∧ State.isRoot g r.effective c = true := by
  simp [Enters]

@[simp] theorem not_loses_unwritten {e : PassError} : ¬ Loses c ⟨m, .unwritten e⟩ := by
  rintro ⟨r, e, ⟨⟩, -⟩

@[simp] theorem loses_torn {e : StoreError} : Loses c ⟨m, .torn r e⟩ ↔
    m.states.isCritical c = true ∧ r.effective.isCritical c = false := by
  simp [Loses]

@[simp] theorem not_loses_done : ¬ Loses c ⟨m, .done r⟩ := by
  rintro ⟨r, e, ⟨⟩, -⟩

end

end Passed

namespace Session

variable {setup : Setup} {ps : List Attempt} {p : Attempt} {c : ComponentId} {r : Report}

/-- A component has an open incident among those that are loaded as active. -/
def Tracks (s : Session) (c : ComponentId) : Prop :=
  ∃ i, s.memory.book.active.get? c = some i ∧ i.isOpen = true ∧ i.root = c

theorem tracks_iff {s : Session} : s.Tracks c ↔ c ∈ s.memory.book.active := by
  rw [IdMap.mem_iff]
  constructor
  · rintro ⟨i, h, -, -⟩
    exact ⟨i, h⟩
  · rintro ⟨i, h⟩
    obtain ⟨-, open_, root⟩ := IncidentBook.of_active h
    exact ⟨i, h, open_, root⟩

theorem not_mem_active_start : c ∉ start.memory.book.active := by
  rw [IncidentBook.mem_active]
  exact Bool.false_ne_true

/-! ## Where no pass is torn -/

/-- What holds of a component as long as no pass is torn. -/
structure Charted (g : Graph) (c : ComponentId) (s : Session) : Prop where
  /-- It has an open incident exactly as long as it stays critical after it became so as a root. -/
  mem_active : c ∈ s.memory.book.active ↔ Since (Passed.Keeps c) (Passed.Enters g c) s.past
  /-- If it has an open incident, it is stored as critical. -/
  critical : c ∈ s.memory.book.active → s.memory.states.isCritical c = true

theorem charted_start {g : Graph} : start.Charted g c where
  mem_active := ⟨fun h ↦ absurd h not_mem_active_start, fun h ↦ absurd h not_since_nil⟩
  critical h := absurd h not_mem_active_start

/-- A pass that is not torn keeps that. -/
theorem Charted.next {s : Session} (built : setup.graph.Built) (sound : s.Sound)
    (fits : IncidentBook.Fits s.memory.book.incidents (p.ending setup s.memory).saved)
    (whole : p.faults.saveStates = none) (hc : c ∈ setup.graph) (h : s.Charted setup.graph c) :
    (s.next setup p).Charted setup.graph c := by
  have past : (s.next setup p).past = s.past ++ [⟨s.memory, p.ending setup s.memory⟩] := rfl
  cases ending : p.ending setup s.memory with
  | unwritten e =>
    obtain ⟨states, book⟩ := next_unwritten ending
    constructor
    · rw [past, ending, since_snoc, book, h.mem_active]
      simp
    · rw [states, book]
      exact h.critical
  | torn r e => exact absurd ending (Attempt.ending_ne_torn whole sound.states)
  | done r =>
    have report := Ending.report?_of_done ending
    have active := mem_active_next built sound fits hc report
    constructor
    · rw [past, ending, since_snoc, active, Passed.keeps_done, Passed.enters_done, ← h.mem_active]
      constructor
      · rintro ⟨now, old | ⟨calm, root⟩⟩
        · exact .inr ⟨now, old⟩
        · exact .inl ⟨calm, now, root⟩
      · rintro (⟨calm, now, root⟩ | ⟨now, old⟩)
        · exact ⟨now, .inr ⟨calm, root⟩⟩
        · exact ⟨now, .inl old⟩
    · rw [states_next_done built ending, active]
      exact fun h ↦ h.1

/-- Where states can always be written, a component has an open incident exactly as long as it stays
critical after it became so as a root. -/
theorem mem_active_iff (built : setup.graph.Built) (ids : (play setup ps).DistinctIds)
    (whole : ∀ q ∈ ps, q.faults.saveStates = none) (hc : c ∈ setup.graph) :
    c ∈ (play setup ps).memory.book.active ↔
      Since (Passed.Keeps c) (Passed.Enters setup.graph c) (play setup ps).past := by
  have charted := play_induction (motive := fun ps ↦ (∀ q ∈ ps, q.faults.saveStates = none) →
    (play setup ps).Charted setup.graph c) built ids (fun _ ↦ charted_start) ?_
  · exact (charted.2 whole).mem_active
  · intro qs q sound fits ih whole
    rw [play_snoc]
    have earlier := ih fun x hx ↦ whole x (List.mem_append_left _ hx)
    exact earlier.next built sound fits (whole q (by simp)) hc

/-- Where states can always be written, a root cause has an open incident exactly if it has stayed
critical since it became so as a root. -/
theorem tracks_rootCause_iff (built : setup.graph.Built)
    (whole : ∀ q ∈ ps ++ [p], q.faults.saveStates = none)
    (ids : (play setup (ps ++ [p])).DistinctIds)
    (ok : (p.run setup (play setup ps).memory).1 = .ok r) (hc : c ∈ r.rootCauses) :
    (play setup (ps ++ [p])).Tracks c ↔
      Since (Passed.Keeps c) (Passed.Enters setup.graph c) (play setup (ps ++ [p])).past := by
  have report := Ending.report?_of_done (Attempt.run_eq_ok_iff.1 ok)
  rw [(Attempt.planned report).rootCauses] at hc
  obtain ⟨member, -, -⟩ := State.mem_rootCauses.1 hc
  rw [tracks_iff]
  exact mem_active_iff built ids whole member

section

open Pair

def strike : Attempt :=
  attempt [signal upper .critical 0, signal lower .critical 0] [upper, lower] 0 .none

/-- The upper component recovers, and nothing is heard of the lower one. -/
def relief : Attempt := attempt [signal upper .info 61] [upper] 61 .none

theorem rootCauses_relief :
    (relief.run Pair.setup (play Pair.setup [strike]).memory).1.map (·.rootCauses) =
      .ok [lower] := by
  set_option maxRecDepth 4000 in cbv

theorem distinctIds_relief : (play Pair.setup ([strike] ++ [relief])).DistinctIds := by
  have ids : (play Pair.setup ([strike] ++ [relief])).ids = [upper] := by
    set_option maxRecDepth 4000 in cbv
  exact distinctIds_of_ids_eq ids

theorem of_relief : ∃ r, (relief.run Pair.setup (play Pair.setup [strike]).memory).1 = .ok r ∧
    lower ∈ r.rootCauses := by
  obtain ⟨r, ok, causes⟩ := exists_of_map_eq_ok rootCauses_relief
  refine ⟨r, ok, ?_⟩
  rw [causes]
  exact List.mem_singleton_self lower

theorem tracks_rootCause_lower : ∃ r : Report, lower ∈ r.rootCauses ∧
    ((play Pair.setup ([strike] ++ [relief])).Tracks lower ↔
      Since (Passed.Keeps lower) (Passed.Enters graph lower)
        (play Pair.setup ([strike] ++ [relief])).past) := by
  obtain ⟨r, ok, cause⟩ := of_relief
  have whole : ∀ q ∈ [strike] ++ [relief], q.faults.saveStates = none := by decide
  exact ⟨r, cause, tracks_rootCause_iff graph_built whole distinctIds_relief ok cause⟩

/-- Where no call fails and no time goes back, a root cause may still have no incident: the upper
component of the pair recovers before the lower one. -/
theorem exists_rootCause_untracked :
    ¬ ∀ (setup : Setup) (ps : List Attempt) (p : Attempt) (r : Report), setup.graph.Built →
      (∀ q ∈ ps ++ [p], q.faults = .none) → (ps ++ [p]).Pairwise (·.now ≤ ·.now) →
      (play setup (ps ++ [p])).DistinctIds →
      (p.run setup (play setup ps).memory).1 = .ok r →
      ∀ c ∈ r.rootCauses, (play setup (ps ++ [p])).Tracks c := by
  intro claim
  obtain ⟨r, ok, cause⟩ := of_relief
  have whole : ∀ q ∈ [strike] ++ [relief], q.faults = .none := by
    intro q hq
    rcases List.mem_cons.1 hq with rfl | hq
    · rfl
    · rw [List.mem_singleton.1 hq]
      rfl
  have times : ([strike] ++ [relief]).Pairwise (·.now ≤ ·.now) := by decide
  have tracked := claim Pair.setup [strike] relief r graph_built whole times distinctIds_relief ok
    lower cause
  have none : (play Pair.setup ([strike] ++ [relief])).memory.book.active.keys = [] := by
    set_option maxRecDepth 4000 in cbv
  have kept := IdMap.mem_keys.2 (tracks_iff.1 tracked)
  rw [none] at kept
  cases kept

end

/-! ## Where passes are torn -/

/-- A component is stored as critical and has no open incident. -/
def Stranded (s : Session) (c : ComponentId) : Prop :=
  s.memory.states.isCritical c = true ∧ ¬ s.Tracks c

theorem not_stranded_start : ¬ start.Stranded c := by
  rintro ⟨⟨⟩, -⟩

/-- A pass strands a component that needs nothing if it loses it, or leaves it stranded if it finds
it critical. -/
theorem stranded_next {s : Session} (built : setup.graph.Built) (sound : s.Sound)
    (fits : IncidentBook.Fits s.memory.book.incidents (p.ending setup s.memory).saved)
    (hc : c ∈ setup.graph) (top : setup.graph.upstreamOf c = []) :
    (s.next setup p).Stranded c ↔ Passed.Loses c ⟨s.memory, p.ending setup s.memory⟩ ∨
      (Passed.Keeps c ⟨s.memory, p.ending setup s.memory⟩ ∧ s.Stranded c) := by
  rw [Stranded, Stranded, tracks_iff, tracks_iff]
  cases ending : p.ending setup s.memory with
  | unwritten e =>
    obtain ⟨states, book⟩ := next_unwritten ending
    rw [states, book]
    simp
  | torn r e =>
    have report := Ending.report?_of_torn ending
    rw [states_next_torn ending, mem_active_next built sound fits hc report,
      State.isRoot_of_upstreamOf_eq_nil top, Passed.loses_torn]
    cases s.memory.states.isCritical c <;> cases r.effective.isCritical c <;> simp
  | done r =>
    have report := Ending.report?_of_done ending
    rw [states_next_done built ending, mem_active_next built sound fits hc report,
      State.isRoot_of_upstreamOf_eq_nil top, Passed.keeps_done]
    cases s.memory.states.isCritical c <;> cases r.effective.isCritical c <;> simp

/-- A component that needs nothing is stored as critical without an open incident exactly if a torn
pass found it recovered, and every pass that wrote its states since then found it critical. -/
theorem stranded_iff (built : setup.graph.Built) (ids : (play setup ps).DistinctIds)
    (hc : c ∈ setup.graph) (top : setup.graph.upstreamOf c = []) :
    (play setup ps).Stranded c ↔
      Since (Passed.Keeps c) (Passed.Loses c) (play setup ps).past := by
  refine (play_induction (motive := fun ps ↦ (play setup ps).Stranded c ↔
    Since (Passed.Keeps c) (Passed.Loses c) (play setup ps).past) built ids ?_ ?_).2
  · exact ⟨fun h ↦ absurd h not_stranded_start, fun h ↦ absurd h not_since_nil⟩
  · intro qs q sound fits ih
    rw [play_snoc, stranded_next built sound fits hc top, ih]
    exact since_snoc.symm

section

open Pair

def onset : Attempt := attempt [signal upper .critical 0] [upper] 0 .none

/-- Two minutes later it has recovered, which cannot be stored. -/
def lapse : Attempt :=
  attempt [] [upper] 120 { Faults.none with saveStates := some (.unavailable .states) }

/-- A second after that it is critical again. -/
def relapse : Attempt := attempt [signal upper .critical 121] [upper] 121 .none

/-- The last pass goes through, and yet the component that it finds critical has no incident. -/
theorem stranded_relapse :
    (∃ r, (relapse.run Pair.setup (play Pair.setup [onset, lapse]).memory).1 = .ok r) ∧
    (play Pair.setup [onset, lapse, relapse]).Stranded upper ∧
    Since (Passed.Keeps upper) (Passed.Loses upper)
      (play Pair.setup [onset, lapse, relapse]).past := by
  have answers : (relapse.run Pair.setup (play Pair.setup [onset, lapse]).memory).1.map
      (·.rootCauses) = .ok [upper] := by
    set_option maxRecDepth 4000 in cbv
  have ids : (play Pair.setup [onset, lapse, relapse]).ids = [upper] := by
    set_option maxRecDepth 4000 in cbv
  have distinct := distinctIds_of_ids_eq ids
  have critical :
      (play Pair.setup [onset, lapse, relapse]).memory.states.isCritical upper = true := by
    set_option maxRecDepth 4000 in cbv
  have active : (play Pair.setup [onset, lapse, relapse]).memory.book.active.keys = [] := by
    set_option maxRecDepth 4000 in cbv
  have stranded : (play Pair.setup [onset, lapse, relapse]).Stranded upper := by
    refine ⟨critical, ?_⟩
    rw [tracks_iff, ← IdMap.mem_keys, active]
    exact List.not_mem_nil
  obtain ⟨r, ok, -⟩ := exists_of_map_eq_ok answers
  exact ⟨⟨r, ok⟩, stranded,
    (stranded_iff graph_built distinct (by decide) (by decide)).1 stranded⟩

end

end Session

end Evaluation

end Cascade
