import Cascade.Proofs.Http.Service
import Cascade.Proofs.Site
import Cascade.Proofs.Store.Signals

/-!
# What becomes of a signal that is handed in

A signal is refused, fails, is a duplicate or is accepted, each at one cost to the site
(`answered_ingest`).  A refusal costs nothing and a failure or a duplicate at most a mark; a signal
that is accepted stands last among those that are kept.

`respond_of_refused` says that no request that is refused leaves a trace.
-/

namespace Cascade

open Store Ingestion

namespace Site

def marked (id : ComponentId) (s : Site) : Site :=
  { s with marks := { s.marks with ids := s.marks.ids.add id } }

def accepted (submission : Submission) (id : ComponentId) (now : Time.Instant) (s : Site) : Site :=
  settle submission id { s.marked id with
    world := s.world.withStore (s.world.store.add (submission.record id now)) }

/-- A signal can be appended, whether it is a duplicate or not. -/
def Takes (r : SignalRecord) (s : Site) : Prop := ∃ answer, s.append r = .ok answer

end Site

namespace Ingestion

/-- What handing in a signal may come to at a site. -/
inductive Answered (r : Roster) (now : Time.Instant) (s : Submission) (site : Site) :
    Except IngestError Admission × Site → Prop
  | unknown (unknown : r.idOf? s.component = none) :
      Answered r now s site (.ok .unknownComponent, site)
  | full {id : ComponentId} (known : r.idOf? s.component = some id)
      (full : site.queue.canAccept = false) : Answered r now s site (.ok .backpressure, site)
  | unmarked {id : ComponentId} (known : r.idOf? s.component = some id)
      (room : site.queue.canAccept = true) (refused : site.marks.closed = true) :
      Answered r now s site (.error (.mark (.mark (.unavailable .dirty))), site)
  | failed {id : ComponentId} {e : StoreError} (known : r.idOf? s.component = some id)
      (room : site.queue.canAccept = true) (taken : site.marks.closed = false)
      (refused : site.append (s.record id now) = .error e) :
      Answered r now s site (.error (.append e), site.marked id)
  | duplicate {id : ComponentId} {key : String} (known : r.idOf? s.component = some id)
      (room : site.queue.canAccept = true) (taken : site.marks.closed = false)
      (takes : site.Takes (s.record id now)) (own : s.key = some key)
      (kept : 0 < site.world.store.keyCount key) :
      Answered r now s site (.ok .duplicate, site.marked id)
  | accepted {id : ComponentId} (known : r.idOf? s.component = some id)
      (room : site.queue.canAccept = true) (taken : site.marks.closed = false)
      (takes : site.Takes (s.record id now))
      (new : ∀ key, s.key = some key → site.world.store.keyCount key = 0) :
      Answered r now s site (.ok .accepted, site.accepted s id now)

variable {r : Roster} {now : Time.Instant} {s : Submission} {site : Site} {id : ComponentId}

/-- Appending does not look at the marks. -/
theorem append_marked (record : SignalRecord) : (site.marked id).append record =
    (site.append record).map fun answer ↦ (answer.1, answer.2.marked id) := by
  show (if site.logClosed then _ else (site.world.store.append record).map _) = _
  unfold Site.append
  split
  · rfl
  · cases site.world.store.append record with
    | error e => rfl
    | ok answer => rfl

theorem answered_ingest (r : Roster) (now : Time.Instant) (s : Submission) (site : Site) :
    Answered r now s site (ingest r now s site) := by
  unfold ingest
  cases known : r.idOf? s.component with
  | none => exact .unknown known
  | some id =>
    cases room : site.queue.canAccept with
    | false => exact .full known room
    | true =>
      dsimp only [if_true]
      unfold keep
      cases taken : site.marks.closed with
      | true =>
        have refused : site.mark id = .error (.unavailable .dirty) := by
          simp [Site.mark, Marks.mark, taken, Except.map]
        rw [refused]
        exact .unmarked known room taken
      | false =>
        have marked : site.mark id = .ok (site.marked id) := Site.mark_eq_ok_iff.2 ⟨taken, rfl⟩
        rw [marked]
        dsimp only
        rw [append_marked]
        cases appended : site.append (s.record id now) with
        | error e => exact .failed known room taken appended
        | ok answer =>
          have takes : site.Takes (s.record id now) := ⟨answer, appended⟩
          obtain ⟨outcome, after⟩ := answer
          obtain ⟨-, store, stored, rfl⟩ := Site.append_eq_ok_iff.1 appended
          cases Backend.appended_of_append stored with
          | duplicate own kept => exact .duplicate known room taken takes own kept
          | inserted new => exact .accepted known room taken takes new

/-- Handing in a signal neither closes nor opens the queue. -/
theorem closed_ingest : (ingest r now s site).2.queue.closed = site.queue.closed := by
  have answered := answered_ingest r now s site
  generalize ingest r now s site = answer at answered ⊢
  cases answered with
  | accepted => exact Worker.Queue.closed_push
  | _ => rfl

/-- What an answer to a signal that is handed in tells, and what it costs the site. -/
structure Accounted (r : Roster) (now : Time.Instant) (s : Submission) (site : Site)
    (answer : Except IngestError Admission × Site) : Prop where
  /-- A signal that is refused changes nothing. -/
  refused : answer.1 = .ok .unknownComponent ∨ answer.1 = .ok .backpressure → answer.2 = site
  /-- A signal that fails leaves a mark at most. -/
  failed {e : IngestError} : answer.1 = .error e →
    answer.2 = site ∨ ∃ id, r.idOf? s.component = some id ∧ answer.2 = site.marked id
  /-- A signal is a duplicate exactly if nothing refuses it and its key is kept. -/
  duplicate_iff : answer.1 = .ok .duplicate ↔ ∃ id key, r.idOf? s.component = some id ∧
    site.queue.canAccept = true ∧ site.marks.closed = false ∧ site.Takes (s.record id now) ∧
    s.key = some key ∧ 0 < site.world.store.keyCount key
  /-- A duplicate leaves a mark. -/
  duplicate : answer.1 = .ok .duplicate →
    ∃ id, r.idOf? s.component = some id ∧ answer.2 = site.marked id
  /-- A signal is accepted exactly if nothing refuses it and its key is new. -/
  accepted_iff : answer.1 = .ok .accepted ↔ ∃ id, r.idOf? s.component = some id ∧
    site.queue.canAccept = true ∧ site.marks.closed = false ∧ site.Takes (s.record id now) ∧
    ∀ key, s.key = some key → site.world.store.keyCount key = 0
  /-- A signal that is accepted adds one record, and one wake-up to a queue that is open. -/
  accepted : answer.1 = .ok .accepted → ∃ id, r.idOf? s.component = some id ∧
    answer.2.world.store = site.world.store.add (s.record id now) ∧
    answer.2.queue.items = site.queue.items ++ if site.queue.closed then [] else [id]

/-- A wake-up goes to the end of the queue, or nowhere if that is closed. -/
theorem items_accepted (room : site.queue.canAccept = true) :
    (site.accepted s id now).queue.items =
      site.queue.items ++ if site.queue.closed then [] else [id] := by
  show (site.queue.push id).2.items = _
  cases closed : site.queue.closed with
  | true => simp [Worker.Queue.push, closed]
  | false => simp [Worker.Queue.items_push_of_room id closed room]

theorem Answered.accounted {answer : Except IngestError Admission × Site}
    (h : Answered r now s site answer) : Accounted r now s site answer := by
  cases h with
  | unknown unknown => constructor <;> simp [unknown]
  | full known full => constructor <;> simp [known, full]
  | unmarked known room refused => constructor <;> simp [known, refused]
  | @failed id e known room taken refused =>
    have stuck : ¬ site.Takes (s.record id now) := by
      rintro ⟨answer, ok⟩
      cases refused.symm.trans ok
    constructor <;> simp [known, room, taken, stuck]
  | @duplicate id key known room taken takes own kept =>
    have old : ¬ site.world.store.keyCount key = 0 := Nat.ne_of_gt kept
    constructor <;> simp [known, room, taken, takes, own, kept, old]
  | @accepted id known room taken takes new =>
    have absent : ∀ key, s.key = some key → ¬ 0 < site.world.store.keyCount key :=
      fun key own kept ↦ Nat.ne_of_gt kept (new key own)
    refine ⟨by simp, nofun, ?_, nofun, ?_, fun _ ↦ ⟨id, known, rfl, items_accepted room⟩⟩
    · simpa [known, room, taken, takes] using absent
    · simpa [known, room, taken, takes] using new

end Ingestion

namespace Http

/-- A request that is refused leaves no trace. -/
theorem respond_of_refused {roster : Roster} {now : Time.Instant} {req : Request} {site : Site}
    (refused : (respond roster now req site).1.status = 400 ∨
      (respond roster now req site).1.status = 404 ∨
      (respond roster now req site).1.status = 429) :
    (respond roster now req site).2 = site := by
  have handled := handled_respond roster now req site
  generalize respond roster now req site = answer at handled refused ⊢
  cases handled with
  | plain => rfl
  | taken submission =>
    exact (answered_ingest roster now submission site).accounted.refused (status_reply _ refused)

end Http

end Cascade
