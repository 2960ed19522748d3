import Cascade.Ingestion
import Cascade.Proofs.IdMap

/-!
# What becomes of marks and wake-ups

What each operation of a site does to the marked components and to the queue.  A component that is
marked or woken for after a signal was taken in was so before, or is the one that the signal names
(`Site.Holds.ingest`).
-/

namespace Cascade

open Store Ingestion

variable {id c : ComponentId} {s t : Site}

namespace Store.Marks

variable {m m' : Marks}

theorem mem_mark (marked : m.mark id = .ok m') : c ∈ m'.ids ↔ id = c ∨ c ∈ m.ids := by
  unfold mark at marked
  split at marked
  · cases marked
  · cases marked
    exact IdMap.mem_add

end Store.Marks

namespace Worker.Queue

variable {q q' : Queue}

theorem closed_push : (q.push id).2.closed = q.closed := by
  unfold push
  split
  · rfl
  · split
    · rfl
    · rfl

theorem closed_of_pop? (next : q.pop? = some (id, q')) : q'.closed = q.closed := by
  unfold pop? at next
  split at next
  · cases next
  · cases next
    rfl

theorem pop?_eq_none_iff : q.pop? = none ↔ q.items = [] := by
  unfold pop?
  split <;> simp_all

theorem mem_push : c ∈ (q.push id).2.items ↔ c ∈ q.items ∨ (id = c ∧ (q.push id).1 = true) := by
  unfold push
  split
  · simp
  · split
    · simp [eq_comm]
    · simp

end Worker.Queue

namespace Site

theorem mark_eq_ok_iff : s.mark id = .ok t ↔ s.marks.closed = false ∧
    t = { s with marks := { s.marks with ids := s.marks.ids.add id } } := by
  unfold mark Marks.mark
  split
  · rename_i closed
    simp [closed, Except.map]
  · rename_i taken
    simp [taken, Except.map, eq_comm]

theorem markIfOpen_eq (id : ComponentId) (s : Site) :
    s.markIfOpen id = if s.marks.closed then s else
      { s with marks := { s.marks with ids := s.marks.ids.add id } } := by
  unfold markIfOpen Marks.markIfOpen Marks.mark
  split
  · rename_i marks marked
    split at marked
    · cases marked
    · rename_i taken
      cases marked
      rw [if_neg taken]
  · rename_i e refused
    split at refused
    · rename_i closed
      rw [if_pos closed]
    · cases refused

/-- Marking components leaves the store and the queue alone. -/
theorem foldl_markIfOpen (ids : List ComponentId) (s : Site) :
    (ids.foldl (fun s id ↦ s.markIfOpen id) s).world = s.world ∧
      (ids.foldl (fun s id ↦ s.markIfOpen id) s).queue = s.queue := by
  induction ids generalizing s with
  | nil => exact ⟨rfl, rfl⟩
  | cons id ids ih => exact ih (s.markIfOpen id)

/-- A signal that is appended changes the store and nothing else. -/
theorem append_eq_ok_iff {r : SignalRecord} {outcome : AppendOutcome} :
    s.append r = .ok (outcome, t) ↔ s.logClosed = false ∧
      ∃ store, s.world.store.append r = .ok (outcome, store) ∧
        t = { s with world := s.world.withStore store } := by
  unfold append
  cases s.logClosed with
  | true => simp
  | false =>
    cases s.world.store.append r with
    | error e => simp [Except.map]
    | ok answer =>
      obtain ⟨outcome', store⟩ := answer
      simp only [Except.map, Bool.false_eq_true, if_false, Except.ok.injEq, Prod.mk.injEq, true_and]
      constructor
      · rintro ⟨rfl, rfl⟩
        exact ⟨store, ⟨rfl, rfl⟩, rfl⟩
      · rintro ⟨_, ⟨rfl, rfl⟩, rfl⟩
        exact ⟨rfl, rfl⟩

/-! ### What is marked and woken for -/

/-- Every component that is marked or woken for is of a kind. -/
structure Holds (Q : ComponentId → Prop) (s : Site) : Prop where
  marks : ∀ c ∈ s.marks.ids, Q c
  queue : ∀ c ∈ s.queue.items, Q c

namespace Holds

variable {Q : ComponentId → Prop}

theorem mark (h : s.Holds Q) (own : Q id) (marked : s.mark id = .ok t) : t.Holds Q := by
  obtain ⟨-, rfl⟩ := mark_eq_ok_iff.1 marked
  refine ⟨fun c mem ↦ ?_, h.queue⟩
  rcases IdMap.mem_add.1 mem with rfl | mem
  · exact own
  · exact h.marks c mem

theorem markIfOpen (h : s.Holds Q) (own : Q id) : (s.markIfOpen id).Holds Q := by
  rw [markIfOpen_eq]
  split
  · exact h
  · rename_i taken
    exact h.mark own (mark_eq_ok_iff.2 ⟨Bool.eq_false_iff.2 taken, rfl⟩)

theorem markAll {ids : List ComponentId} (h : s.Holds Q) (all : ∀ id ∈ ids, Q id) :
    (ids.foldl (fun s id ↦ s.markIfOpen id) s).Holds Q := by
  induction ids generalizing s with
  | nil => exact h
  | cons id ids ih =>
    obtain ⟨own, rest⟩ := List.forall_mem_cons.1 all
    exact ih (h.markIfOpen own) rest

theorem settle {submission : Submission} (h : s.Holds Q) (own : Q id) :
    (settle submission id s).Holds Q := by
  refine ⟨h.marks, fun c mem ↦ ?_⟩
  rcases Worker.Queue.mem_push.1 mem with mem | ⟨rfl, -⟩
  · exact h.queue c mem
  · exact own

/-- Taking a signal in marks and wakes for the component that it names, if it is known. -/
theorem ingest {r : Roster} {now : Time.Instant} {submission : Submission} (h : s.Holds Q)
    (own : ∀ {id}, r.idOf? submission.component = some id → Q id) :
    (ingest r now submission s).2.Holds Q := by
  unfold Ingestion.ingest
  split
  · exact h
  · rename_i id known
    split
    · unfold keep
      split
      · exact h
      · rename_i marked
        have h := h.mark (own known) marked
        split
        · exact h
        · rename_i appended
          obtain ⟨-, _, -, rfl⟩ := append_eq_ok_iff.1 appended
          exact ⟨h.marks, h.queue⟩
        · rename_i appended
          obtain ⟨-, _, -, rfl⟩ := append_eq_ok_iff.1 appended
          exact settle ⟨h.marks, h.queue⟩ (own known)
    · exact h

end Holds

end Site

end Cascade
