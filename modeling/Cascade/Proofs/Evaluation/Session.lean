import Cascade.Proofs.Evaluation.Attempt
import Cascade.Proofs.Since
import Mathlib.Data.List.Induction

/-!
# Passes one after another

A session is a run of passes, from empty stores (`Session.play`) or from given ones
(`Session.goOn`).  Its past holds the ending of each pass and what was kept before it;
`Session.EachPass` says something of every pass.

If all incidents that are written have different ids, every transition that is written fits the
book (`Session.fits_next`, `Session.sound_play`), and `Session.play_induction` carries a property
through a session.  `Session.mem_active_next` says which components have an open incident after one
more pass.
-/

namespace Cascade.Evaluation

open Store IncidentBook

/-- A pass that is over. -/
structure Passed where
  before : Memory
  ending : Ending

structure Session where
  memory : Memory
  past : List Passed

namespace Session

def start : Session := ⟨.empty, []⟩

def next (setup : Setup) (s : Session) (p : Attempt) : Session where
  memory := (p.run setup s.memory).2
  past := s.past ++ [⟨s.memory, p.ending setup s.memory⟩]

/-- A store is given and no pass was run. -/
def resume (m : Memory) : Session := ⟨m, []⟩

/-- More passes one after another. -/
def goOn (setup : Setup) (s : Session) (ps : List Attempt) : Session := ps.foldl (next setup) s

def play (setup : Setup) (ps : List Attempt) : Session := ps.foldl (next setup) start

variable {setup : Setup} {s : Session} {p : Attempt} {ps : List Attempt}

theorem goOn_snoc : goOn setup s (ps ++ [p]) = (goOn setup s ps).next setup p := by
  rw [goOn, List.foldl_append]
  rfl

theorem play_snoc : play setup (ps ++ [p]) = (play setup ps).next setup p := goOn_snoc

/-- Something holds of every pass of a run and of what was kept before it. -/
def EachPass (setup : Setup) (s : Session) (ps : List Attempt) (P : Memory → Attempt → Prop) :
    Prop :=
  ∀ before p after, ps = before ++ p :: after → P (goOn setup s before).memory p

theorem eachPass_nil {P : Memory → Attempt → Prop} : EachPass setup s [] P := by
  intro before p after eq
  exact absurd eq.symm (by simp)

theorem eachPass_snoc {P : Memory → Attempt → Prop} : EachPass setup s (ps ++ [p]) P ↔
    EachPass setup s ps P ∧ P (goOn setup s ps).memory p := by
  constructor
  · intro h
    exact ⟨fun before q after eq ↦ h before q (after ++ [p]) (by simp [eq]), h ps p [] rfl⟩
  · rintro ⟨earlier, last⟩ before q after eq
    rcases snoc_eq_split_iff.1 eq with ⟨-, rfl, rfl⟩ | ⟨rest, -, eq⟩
    · exact last
    · exact earlier before q rest eq

/-! ## Incidents that are written -/

def ids (s : Session) : List IncidentId :=
  s.past.flatMap fun x ↦ x.ending.saved.opened.map (·.id)

/-- No two incidents were given the same id. -/
def DistinctIds (s : Session) : Prop := s.ids.Nodup

theorem distinctIds_of_ids_eq {id : IncidentId} (h : s.ids = [id]) : s.DistinctIds := by
  rw [DistinctIds, h]
  exact List.nodup_singleton id

theorem ids_next : (s.next setup p).ids =
    s.ids ++ (p.ending setup s.memory).saved.opened.map (·.id) := by
  simp [ids, next]

/-- Before the last passes of a run no two incidents were given the same id either. -/
theorem distinctIds_of_append {qs : List Attempt} (h : (play setup (ps ++ qs)).DistinctIds) :
    (play setup ps).DistinctIds := by
  induction qs using List.reverseRecOn with
  | nil => rwa [List.append_nil] at h
  | append_singleton qs q ih =>
    rw [← List.append_assoc, play_snoc, DistinctIds, ids_next] at h
    exact ih (List.nodup_append'.1 h).1

/-- What holds of the stores in between passes. -/
structure Sound (s : Session) : Prop where
  tidy : Tidy s.memory.book.incidents
  /-- Every incident that is kept was written as new. -/
  known : ∀ {id}, id ∈ s.memory.book.incidents → id ∈ s.ids
  recorder : s.memory.recorderClosed = false
  /-- States are taken, where no call fails. -/
  states : s.memory.statesClosed = false

theorem sound_start : start.Sound where
  tidy := ⟨by rintro _ _ ⟨⟩, by rintro _ _ _ _ ⟨⟩⟩
  known h := by cases h
  recorder := rfl
  states := rfl

theorem memory_next (setup : Setup) (p : Attempt) (sound : s.Sound) :
    ∃ log, (s.next setup p).memory = { s.memory with
      log
      states := s.memory.states.override (p.ending setup s.memory).states
      book := s.memory.book.save (p.ending setup s.memory).saved
      alerts := s.memory.alerts ++
        (p.ending setup s.memory).announced.alerts.map (.internal p.now) } :=
  Attempt.run_snd sound.recorder

theorem book_next : (s.next setup p).memory.book =
    s.memory.book.save (p.ending setup s.memory).saved := Attempt.book_run

theorem states_next : (s.next setup p).memory.states =
    s.memory.states.override (p.ending setup s.memory).states := Attempt.states_run

theorem alerts_next (sound : s.Sound) : (s.next setup p).memory.alerts =
    s.memory.alerts ++ (p.ending setup s.memory).announced.alerts.map (.internal p.now) := by
  obtain ⟨log, eq⟩ := memory_next setup p sound
  rw [eq]

/-- The incidents that a pass writes fit, if their ids are new. -/
theorem fits_next (built : setup.graph.Built) (sound : s.Sound)
    (ids : (s.next setup p).DistinctIds) :
    Fits s.memory.book.incidents (p.ending setup s.memory).saved := by
  rw [DistinctIds, ids_next, List.nodup_append'] at ids
  obtain ⟨-, distinct, apart⟩ := ids
  cases report : (p.ending setup s.memory).report? with
  | none =>
    rw [Ending.saved_of_report?_eq_none report]
    constructor <;> constructor <;> simp [Transition.none]
  | some r =>
    rw [Ending.saved_of_report? report] at distinct apart ⊢
    exact (Attempt.planned report).fits built sound.tidy distinct fun i hi kept ↦
      apart (sound.known kept) (List.mem_map.2 ⟨i, hi, rfl⟩)

theorem sound_next (sound : s.Sound)
    (fits : Fits s.memory.book.incidents (p.ending setup s.memory).saved) :
    (s.next setup p).Sound where
  tidy := by
    rw [book_next]
    exact sound.tidy.apply fits
  known {id} h := by
    rw [book_next, IdMap.mem_iff] at h
    obtain ⟨i, h⟩ := h
    rw [ids_next, List.mem_append]
    rcases of_get?_apply fits h with ⟨ended, eq⟩ | ⟨begun, eq⟩ | ⟨old, -⟩
    · obtain ⟨j, stored, -⟩ := fits.closing.kept i ended
      rw [eq] at stored
      exact .inl (sound.known (IdMap.mem_iff.2 ⟨j, stored⟩))
    · exact .inr (List.mem_map.2 ⟨i, begun, eq⟩)
    · exact .inl (sound.known (IdMap.mem_iff.2 ⟨i, old⟩))
  recorder := by
    obtain ⟨log, eq⟩ := memory_next setup p sound
    rw [eq]
    exact sound.recorder
  states := by
    obtain ⟨log, eq⟩ := memory_next setup p sound
    rw [eq]
    exact sound.states

/-- What holds before any pass, and is kept by every pass whose incidents fit, holds after any
passes. -/
theorem play_induction {motive : List Attempt → Prop} (built : setup.graph.Built)
    (ids : (play setup ps).DistinctIds) (nil : motive [])
    (snoc : ∀ qs q, (play setup qs).Sound →
      Fits (play setup qs).memory.book.incidents (q.ending setup (play setup qs).memory).saved →
      motive qs → motive (qs ++ [q])) : (play setup ps).Sound ∧ motive ps := by
  induction ps using List.reverseRecOn with
  | nil => exact ⟨sound_start, nil⟩
  | append_singleton ps p ih =>
    obtain ⟨sound, holds⟩ := ih (distinctIds_of_append ids)
    rw [play_snoc] at ids
    have fits := fits_next built sound ids
    refine ⟨?_, snoc ps p sound fits holds⟩
    rw [play_snoc]
    exact sound_next sound fits

theorem sound_play (built : setup.graph.Built) (ids : (play setup ps).DistinctIds) :
    (play setup ps).Sound :=
  (play_induction (motive := fun _ ↦ True) built ids trivial fun _ _ _ _ _ ↦ trivial).1

/-! ## One component -/

variable {c : ComponentId} {r : Report}

/-- A pass that writes nothing leaves what is stored. -/
theorem next_unwritten {e : PassError}
    (h : p.ending setup s.memory = .unwritten e) :
    (s.next setup p).memory.states = s.memory.states ∧
    (s.next setup p).memory.book = s.memory.book := by
  rw [states_next, book_next, h]
  exact ⟨rfl, rfl⟩

/-- A pass that writes incidents only leaves the states. -/
theorem states_next_torn {e : StoreError} (h : p.ending setup s.memory = .torn r e) :
    (s.next setup p).memory.states = s.memory.states := by
  rw [states_next, h]
  rfl

/-- After a pass that writes everything the states are those that it reports. -/
theorem states_next_done (built : setup.graph.Built) (h : p.ending setup s.memory = .done r) :
    (s.next setup p).memory.states = r.effective := Attempt.states_of_done built h

/-- After a pass that writes its incidents a component has an open one if it is critical and had one
before, or became critical as a root. -/
theorem mem_active_next (built : setup.graph.Built) (sound : s.Sound)
    (fits : Fits s.memory.book.incidents (p.ending setup s.memory).saved) (hc : c ∈ setup.graph)
    (report : (p.ending setup s.memory).report? = some r) :
    c ∈ (s.next setup p).memory.book.active ↔ r.effective.isCritical c = true ∧
      (c ∈ s.memory.book.active ∨ s.memory.states.isCritical c = false ∧
        State.isRoot setup.graph r.effective c = true) := by
  have saved := Ending.saved_of_report? report
  rw [saved, (Attempt.planned report).transition] at fits
  rw [book_next, saved, (Attempt.planned report).transition,
    Incident.mem_active_save sound.tidy fits (built.mem_order.2 hc), Incident.opens_iff,
    stateOf_withDefaults, Ne, StateMap.stateOf_eq_critical_iff, StateMap.stateOf_eq_critical_iff,
    Bool.not_eq_true]
  constructor
  · rintro (⟨calm, critical, -, root⟩ | ⟨active, critical⟩)
    · exact ⟨critical, .inr ⟨calm, root⟩⟩
    · exact ⟨critical, .inl active⟩
  · rintro ⟨critical, active | ⟨calm, root⟩⟩
    · exact .inr ⟨active, critical⟩
    · by_cases active : c ∈ s.memory.book.active
      · exact .inr ⟨active, critical⟩
      · exact .inl ⟨calm, critical, active, root⟩

end Session

/-! ## Two components -/

namespace Pair

/-- A component that needs nothing. -/
def upper : ComponentId := ⟨List.replicate 16 1, rfl⟩

/-- A component that needs the upper one. -/
def lower : ComponentId := ⟨List.replicate 16 2, rfl⟩

def graph : Graph := (Graph.build [upper, lower] [⟨upper, lower⟩]).toOption.getD .empty

theorem graph_built : graph.Built := ⟨[upper, lower], [⟨upper, lower⟩], rfl⟩

def minute : Time.Span := ⟨60000000000⟩

/-- One critical signal within a minute makes either of them critical. -/
def setup : Setup where
  graph
  thresholds := ⟨∅, some ⟨1, 1, minute, minute, by decide, by decide, by decide, by decide,
    by decide, by decide⟩⟩

def secondAt (second : Int) : Time.Instant := .ofNanos (second * 1000000000)

def signal (c : ComponentId) (severity : Severity) (second : Int) : SignalRecord :=
  ⟨c, ⟨severity, secondAt second⟩, "probe", secondAt second, none⟩

/-- A pass after some signals.  Every incident has the id of its root. -/
def attempt (arrivals : List SignalRecord) (dirty : List ComponentId) (second : Int)
    (faults : Faults) : Attempt :=
  ⟨arrivals, IdMap.setOf dirty, secondAt second, id, faults⟩

end Pair

end Cascade.Evaluation
