import Cascade.Proofs.Evaluation.Repetition
import Cascade.Proofs.Incident.Renaming

/-!
# A pass tried until it goes through

A pass that fails may be tried again, over the same components, at the same time and with no new
signals.  Every go finds what a clean pass finds (`Attempt.effective_eq`), as no failed one writes
states.  The first that writes its incidents writes those of a clean pass, up to their ids, and
every later one detects nothing more.

`Session.retry_eq_clean` concludes that in the end the store holds what one clean pass leaves.
-/

namespace Cascade.Evaluation

open Store IncidentBook

/-- An attempt at a pass that another attempt is made at too: over the same components, at the same
time and with no new signals. -/
structure Attempt.Repeats (c q : Attempt) : Prop where
  quiet : q.arrivals = []
  dirty : q.dirty = c.dirty
  time : q.now = c.now

/-- Two stores with the same signals and states, which refuse the same. -/
structure Alike (m n : Memory) : Prop where
  log : n.log = m.log
  states : n.states = m.states
  statesClosed : n.statesClosed = m.statesClosed
  incidentsClosed : n.incidentsClosed = m.incidentsClosed

theorem Alike.shows {setup : Setup} {m n : Memory} (alike : Alike m n) {now : Time.Instant}
    {id : ComponentId} {st : ComponentState} :
    Shows setup n now id st ↔ Shows setup m now id st := by
  rw [Shows, Shows, alike.log, alike.states]

/-- The incidents of a transition were written, under some ids. -/
def Written (t : Transition) (m n : IdMap Incident) : Prop :=
  ∃ fresh, Fits m (t.withIds fresh) ∧ n = apply (t.withIds fresh) m

/-- Under whatever ids the incidents of a transition were written, they are the same up to them. -/
theorem Written.renamed {t : Transition} {m n : IdMap Incident} (written : Written t m n)
    (tidy : Tidy m) (fits : Fits m t) :
    ∃ rename, (∀ id ∈ m, rename id = id) ∧ Renamed rename (apply t m) n := by
  obtain ⟨fresh, fits', rfl⟩ := written
  exact ⟨t.newId fresh, fun _ mem ↦ newId_of_mem fits mem, renamed_apply tidy fits fits'⟩

/-- The ids of the new incidents differ from each other and from those that were kept. -/
structure FreshIds (l : List IncidentId) (m : Memory) : Prop where
  /-- They differ from each other. -/
  distinct : l.Nodup
  /-- They differ from those that were kept. -/
  new : ∀ id ∈ l, id ∉ m.book.incidents

theorem FreshIds.left {l k : List IncidentId} {m : Memory} (h : FreshIds (l ++ k) m) :
    FreshIds l m :=
  ⟨(List.nodup_append'.1 h.distinct).1, fun id hid ↦ h.new id (List.mem_append_left _ hid)⟩

theorem FreshIds.right {l k : List IncidentId} {m : Memory} (h : FreshIds (l ++ k) m) :
    FreshIds k m :=
  ⟨(List.nodup_append'.1 h.distinct).2.1, fun id hid ↦ h.new id (List.mem_append_right _ hid)⟩

theorem freshIds_singleton {l : List IncidentId} {id : IncidentId} {m : Memory} (h : l = [id])
    (new : id ∉ m.book.incidents.keys) : FreshIds l m := by
  subst h
  refine ⟨List.nodup_singleton id, fun k hk ↦ ?_⟩
  rw [List.mem_singleton.1 hk]
  exact fun kept ↦ new (IdMap.mem_keys.2 kept)

namespace Attempt

variable {setup : Setup} {c q : Attempt} {m n : Memory} {r r' : Report}

/-! ### A go that writes its incidents -/

section Go

variable (quiet : c.arrivals = []) (repeats : c.Repeats q) (alike : Alike m n)
  (report : (q.ending setup n).report? = some r) (clean : (c.ending setup m).report? = some r')

include quiet repeats alike report clean

/-- What a go finds is what a clean pass finds. -/
theorem isolated_eq : r.isolated = r'.isolated := by
  apply IdMap.ext
  intro id
  apply Option.ext
  intro st
  rw [(looked report).isolated, (looked clean).isolated, takeIn_of_arrivals repeats.quiet,
    takeIn_of_arrivals quiet, repeats.dirty, repeats.time, alike.shows]

theorem effective_eq : r.effective = r'.effective := by
  rw [(planned report).effective, (planned clean).effective, alike.states,
    isolated_eq quiet repeats alike report clean]

variable (built : setup.graph.Built) (tidy : Tidy m.book.incidents)

include tidy

include built in
/-- A go over the incidents of the beginning writes those that a clean pass writes. -/
theorem written_first (book : n.book.incidents = m.book.incidents)
    (ids : FreshIds (r.transition.opened.map (·.id)) m) :
    Written r'.transition m.book.incidents (n.book.save r.transition).incidents := by
  -- the go starts from the states and active incidents of the clean pass and ends at its states
  have detected : r.transition = Incident.detect q.fresh setup.graph
      (withDefaults setup.graph m.states) r'.effective m.book.active c.now := by
    rw [(planned report).transition, effective_eq quiet repeats alike report clean, alike.states,
      active_congr book, repeats.time]
  have same : r'.transition.withIds q.fresh = r.transition := by
    rw [(planned clean).transition, Incident.withIds_detect, detected]
  have fits := (planned report).fits built (book ▸ tidy) ids.distinct
    (book ▸ fun i hi ↦ ids.new i.id (List.mem_map.2 ⟨i, hi, rfl⟩))
  rw [book] at fits
  exact ⟨q.fresh, same ▸ fits, by rw [same, save, book]⟩

/-- A go over the incidents that a clean pass writes detects nothing. -/
theorem transition_of_written
    (written : Written r'.transition m.book.incidents n.book.incidents) :
    r.transition = .none := by
  obtain ⟨fresh, fits, book⟩ := written
  -- what was written is what another clean pass detects
  rw [(planned clean).transition, Incident.withIds_detect] at fits book
  have active : n.book.active = (m.book.save (Incident.detect fresh setup.graph
      (withDefaults setup.graph m.states) r'.effective m.book.active c.now)).active :=
    active_congr book
  rw [(planned report).transition, effective_eq quiet repeats alike report clean, alike.states,
    repeats.time, active]
  exact Incident.detect_again tidy fits q.fresh c.now

include built in
/-- Once a go has written its incidents, those that a clean pass writes are written. -/
theorem written_run (settled : n.book.incidents = m.book.incidents ∨
      Written r'.transition m.book.incidents n.book.incidents)
    (ids : FreshIds (r.transition.opened.map (·.id)) m) :
    Written r'.transition m.book.incidents (q.run setup n).2.book.incidents := by
  rw [book_run, Ending.saved_of_report? report]
  rcases settled with book | written
  · exact written_first quiet repeats alike report clean built tidy book ids
  · rw [transition_of_written quiet repeats alike report clean tidy written]
    exact written

end Go

/-! ### A go that fails -/

/-- A pass that fails has written nothing, or its incidents only. -/
theorem ending_of_error (failed : ∃ e, (q.run setup n).1 = .error e) :
    (∃ e, q.ending setup n = .unwritten e) ∨ ∃ r e, q.ending setup n = .torn r e := by
  obtain ⟨e, failed⟩ := failed
  cases ending : q.ending setup n with
  | unwritten e => exact .inl ⟨e, rfl⟩
  | torn r e => exact .inr ⟨r, e, rfl⟩
  | done r =>
    rw [run_eq_ok_iff.2 ending] at failed
    cases failed

theorem states_of_error (failed : ∃ e, (q.run setup n).1 = .error e) :
    (q.run setup n).2.states = n.states := by
  rw [states_run]
  rcases ending_of_error failed with ⟨e, ending⟩ | ⟨r, e, ending⟩
  · rw [ending]
    rfl
  · rw [ending]
    rfl

theorem book_of_report?_eq_none (h : (q.ending setup n).report? = none) :
    (q.run setup n).2.book = n.book := by
  rw [book_run, Ending.saved_of_report?_eq_none h]
  exact save_none _

theorem torn_of_book_ne (failed : ∃ e, (q.run setup n).1 = .error e)
    (changed : (q.run setup n).2.book ≠ n.book) : ∃ r e, q.ending setup n = .torn r e := by
  rcases ending_of_error failed with ⟨e, ending⟩ | torn
  · exact absurd (book_of_report?_eq_none (by rw [ending]; rfl)) changed
  · exact torn

/-- The signals and states stay over a go that fails. -/
theorem alike_run (alike : Alike m n) (quiet : q.arrivals = [])
    (failed : ∃ e, (q.run setup n).1 = .error e) : Alike m (q.run setup n).2 := by
  obtain ⟨alerts, left⟩ := run_kept setup q n
  refine ⟨?_, ?_, ?_, ?_⟩
  · rw [log_run, takeIn_of_arrivals quiet, alike.log]
  · rw [states_of_error failed, alike.states]
  · rw [left, takeIn_of_arrivals quiet]
    exact alike.statesClosed
  · rw [left, takeIn_of_arrivals quiet]
    exact alike.incidentsClosed

/-- Where a go goes through, a clean pass does. -/
theorem exists_clean (quiet : c.arrivals = []) (sure : c.faults = .none) (repeats : c.Repeats q)
    (alike : Alike m n) (done : q.ending setup n = .done r) :
    ∃ r', c.ending setup m = .done r' := by
  obtain ⟨-, ⟨-, incidents⟩, -, states⟩ := ending_eq_done_iff.1 done
  refine exists_done sure (alike.statesClosed ▸ states) (alike.incidentsClosed ▸ incidents) ?_
  intro id marked mem
  obtain ⟨st, shows⟩ := (looked (Ending.report?_of_done done)).shown (repeats.dirty ▸ marked) mem
  rw [takeIn_of_arrivals repeats.quiet, repeats.time, alike.shows] at shows
  rw [takeIn_of_arrivals quiet]
  exact ⟨st, shows⟩

end Attempt

namespace Session

variable {setup : Setup} {c p : Attempt} {qs : List Attempt} {m : Memory} {r r' : Report}

/-- The passes of a run fail. -/
abbrev Failed (setup : Setup) (m : Memory) (qs : List Attempt) : Prop :=
  EachPass setup (resume m) qs fun n q ↦ ∃ e, (q.run setup n).1 = .error e

theorem alike_goOn (repeats : ∀ q ∈ qs, c.Repeats q) (failed : Failed setup m qs) :
    Alike m (goOn setup (resume m) qs).memory := by
  induction qs using List.reverseRecOn with
  | nil => exact ⟨rfl, rfl, rfl, rfl⟩
  | append_singleton qs q ih =>
    obtain ⟨earlier, last⟩ := eachPass_snoc.1 failed
    rw [goOn_snoc]
    have alike := ih (fun x hx ↦ repeats x (List.mem_append_left _ hx)) earlier
    exact Attempt.alike_run alike (repeats q (by simp)).quiet last

/-- As long as passes fail, the incidents are those of the beginning or those that a clean pass
writes. -/
theorem settled_goOn (built : setup.graph.Built) (tidy : Tidy m.book.incidents)
    (quiet : c.arrivals = []) (clean : (c.ending setup m).report? = some r')
    (repeats : ∀ q ∈ qs, c.Repeats q) (failed : Failed setup m qs)
    (ids : FreshIds (goOn setup (resume m) qs).ids m) :
    (goOn setup (resume m) qs).memory.book.incidents = m.book.incidents ∨
      Written r'.transition m.book.incidents (goOn setup (resume m) qs).memory.book.incidents := by
  induction qs using List.reverseRecOn with
  | nil => exact .inl rfl
  | append_singleton qs q ih =>
    have before : ∀ x ∈ qs, c.Repeats x := fun x hx ↦ repeats x (List.mem_append_left _ hx)
    obtain ⟨earlier, -⟩ := eachPass_snoc.1 failed
    rw [goOn_snoc] at ids ⊢
    rw [ids_next] at ids
    have settled := ih before earlier ids.left
    cases report : (q.ending setup (goOn setup (resume m) qs).memory).report? with
    | none =>
      have book : ((goOn setup (resume m) qs).next setup q).memory.book = _ :=
        Attempt.book_of_report?_eq_none report
      rwa [book]
    | some r =>
      have new := ids.right
      rw [Ending.saved_of_report? report] at new
      exact .inr (Attempt.written_run quiet (repeats q (by simp))
        (alike_goOn before earlier) report clean built tidy settled new)

/-- A pass that fails any number of times and then goes through leaves the states and incidents of
one clean pass, up to the ids of new incidents.  On the way no states change, and incidents only
where a pass failed to write its states. -/
theorem retry_eq_clean (built : setup.graph.Built) (tidy : Tidy m.book.incidents)
    (quiet : c.arrivals = []) (sure : c.faults = .none) (repeats : ∀ q ∈ qs ++ [p], c.Repeats q)
    (failed : Failed setup m qs)
    (ok : (p.run setup (goOn setup (resume m) qs).memory).1 = .ok r)
    (ids : FreshIds (goOn setup (resume m) (qs ++ [p])).ids m)
    (ids' : FreshIds ((resume m).next setup c).ids m) :
    EachPass setup (resume m) qs (fun n q ↦ (q.run setup n).2.states = n.states ∧
      ((q.run setup n).2.book ≠ n.book → ∃ r e, q.ending setup n = .torn r e)) ∧
    ∃ r', (c.run setup m).1 = .ok r' ∧
      (goOn setup (resume m) (qs ++ [p])).memory.states = (c.run setup m).2.states ∧
      ∃ rename, (∀ id ∈ m.book.incidents, rename id = id) ∧
        Renamed rename (c.run setup m).2.book.incidents
          (goOn setup (resume m) (qs ++ [p])).memory.book.incidents := by
  have before : ∀ q ∈ qs, c.Repeats q := fun q hq ↦ repeats q (List.mem_append_left _ hq)
  have last : c.Repeats p := repeats p (by simp)
  have alike := alike_goOn before failed
  have done := Attempt.run_eq_ok_iff.1 ok
  have report := Ending.report?_of_done done
  obtain ⟨r', clean⟩ := Attempt.exists_clean quiet sure last alike done
  have found := Ending.report?_of_done clean
  refine ⟨?_, r', Attempt.run_eq_ok_iff.2 clean, ?_, ?_⟩
  · intro earlier q later eq
    have error := failed earlier q later eq
    exact ⟨Attempt.states_of_error error, Attempt.torn_of_book_ne error⟩
  · rw [goOn_snoc]
    exact (Attempt.states_of_done built done).trans
      ((Attempt.effective_eq quiet last alike report found).trans
        (Attempt.states_of_done built clean).symm)
  · rw [goOn_snoc] at ids ⊢
    rw [ids_next] at ids
    have new := ids.right
    have new' : FreshIds ((c.ending setup m).saved.opened.map (·.id)) m := (ids_next ▸ ids').right
    rw [Ending.saved_of_report? report] at new
    rw [Ending.saved_of_report? found] at new'
    have fits := (Attempt.planned found).fits built tidy new'.distinct fun i hi ↦
      new'.new i.id (List.mem_map.2 ⟨i, hi, rfl⟩)
    have written := Attempt.written_run quiet last alike report found built tidy
      (settled_goOn built tidy quiet found before failed ids.left) new
    rw [Attempt.book_run (p := c), Ending.saved_of_report? found]
    exact written.renamed tidy fits

section

open Pair Attempt

/-- After the outage the upper component is heard to be well and the lower one not to be. -/
def turn : Attempt := attempt [signal upper .info 120, signal lower .critical 120] [] 120 .none

def turned : Memory := (play Pair.setup [outage, turn]).memory

def go (faults : Faults) : Attempt := attempt [] [upper, lower] 120 faults

def unread : Attempt := go { Faults.none with loadActive := some (.unavailable .incidents) }

def unstored : Attempt := go { Faults.none with saveStates := some (.unavailable .states) }

/-- An id that is neither component's. -/
def otherId : IncidentId := ⟨List.replicate 16 3, rfl⟩

/-- A clean pass, whose new incidents have the other id. -/
def clean : Attempt := { go .none with fresh := fun _ ↦ otherId }

/-- One go fails before it writes and one after it has written its incidents.  The third leaves the
upper component's incident resolved and one of the lower component open, as a clean pass does. -/
theorem retry_eq_clean_turn :
    (goOn Pair.setup (resume turned) [unread, unstored, go .none]).memory.book.incidents.keys =
      [upper, lower] ∧
    (clean.run Pair.setup turned).2.book.incidents.keys = [upper, otherId] ∧
    ∃ r', (clean.run Pair.setup turned).1 = .ok r' ∧
      (goOn Pair.setup (resume turned) [unread, unstored, go .none]).memory.states =
        (clean.run Pair.setup turned).2.states ∧
      ∃ rename, (∀ id ∈ turned.book.incidents, rename id = id) ∧
        Renamed rename (clean.run Pair.setup turned).2.book.incidents
          (goOn Pair.setup (resume turned) [unread, unstored, go .none]).memory.book.incidents := by
  have kept : turned.book.incidents.keys = [upper] := by
    set_option maxRecDepth 4000 in cbv
  have distinct : (play Pair.setup [outage, turn]).ids = [upper] := by
    set_option maxRecDepth 4000 in cbv
  have tidy : Tidy turned.book.incidents :=
    (sound_play graph_built (distinctIds_of_ids_eq distinct)).tidy
  have first : (unread.run Pair.setup turned).1.map (·.rootCauses) =
      .error (.store (.unavailable .incidents)) := by
    set_option maxRecDepth 4000 in cbv
  have second : (unstored.run Pair.setup (goOn Pair.setup (resume turned) [unread]).memory).1.map
      (·.rootCauses) = .error (.store (.unavailable .states)) := by
    set_option maxRecDepth 4000 in cbv
  have third : ((go .none).run Pair.setup
      (goOn Pair.setup (resume turned) [unread, unstored]).memory).1.map (·.rootCauses) =
        .ok [lower] := by
    set_option maxRecDepth 4000 in cbv
  have ids : (goOn Pair.setup (resume turned) [unread, unstored, go .none]).ids = [lower] := by
    set_option maxRecDepth 4000 in cbv
  have ids' : ((resume turned).next Pair.setup clean).ids = [otherId] := by
    set_option maxRecDepth 4000 in cbv
  have left : (goOn Pair.setup (resume turned)
      [unread, unstored, go .none]).memory.book.incidents.keys = [upper, lower] := by
    set_option maxRecDepth 4000 in cbv
  have left' : (clean.run Pair.setup turned).2.book.incidents.keys = [upper, otherId] := by
    set_option maxRecDepth 4000 in cbv
  have failed : Failed Pair.setup turned [unread, unstored] :=
    eachPass_snoc.2 ⟨eachPass_snoc.2 ⟨eachPass_nil, _, of_map_eq_error first⟩,
      _, of_map_eq_error second⟩
  have repeats : ∀ q ∈ [unread, unstored] ++ [go .none], clean.Repeats q := by
    intro q hq
    simp only [List.cons_append, List.nil_append, List.mem_cons, List.not_mem_nil, or_false] at hq
    rcases hq with rfl | rfl | rfl <;> exact ⟨rfl, rfl, rfl⟩
  obtain ⟨r, ok, -⟩ := exists_of_map_eq_ok third
  obtain ⟨-, same⟩ := retry_eq_clean graph_built tidy rfl rfl repeats failed ok
    (freshIds_singleton ids (by rw [kept]; decide)) (freshIds_singleton ids' (by rw [kept]; decide))
  exact ⟨left, left', same⟩

end

end Session

end Cascade.Evaluation
