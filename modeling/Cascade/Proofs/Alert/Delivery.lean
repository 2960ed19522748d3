import Cascade.Alert.Telegram
import Cascade.Proofs.Except
import Cascade.Store.Backend

/-!
# Every alert is delivered for itself

Messages go to a chat service and records to a recorder, and either may fail at any time.  A scene
(`Scene`) holds a script of what the service answers and of which records are refused, and keeps
what each of the two was handed.  A message is sent again in any way that keeps the rules of
`Telegram.Retry.IsLawful`.

`Telegram.publisher_scene` says that the chat channel handles every alert of a transition, whatever
became of the others: it makes the sendings that the alert needs (`Telegram.Tries`) and hands over
one record of the last of them (`Telegram.Reports`).  `turns_together` says that of several
publishers each has its turn in the world that the one before it left.  What every publisher leaves
alone, all of them together do (`leaves_together`).
-/

namespace Cascade

namespace Store.Backend

/-- A store without its records of alerts, and not told to refuse any. -/
def bare : Backend → Backend
  | memory m => memory { m with alerts := [], recorderClosed := false }
  | durable t => durable { t with alerts := [] }

/-- Records of alerts change nothing else. -/
theorem bare_record {b b' : Backend} {records : List AlertRecord}
    (kept : b.record records = .ok b') : b'.bare = b.bare := by
  cases b with
  | memory m =>
    rw [record, Memory.record] at kept
    obtain ⟨m', stored, rfl⟩ := exists_of_map_eq_ok kept
    split at stored
    · cases stored
    · cases stored
      rfl
  | durable t =>
    obtain ⟨t', stored, rfl⟩ := exists_of_map_eq_ok kept
    obtain ⟨rows, -, eq⟩ := bind_eq_ok_iff.1 stored
    cases eq
    rfl

end Store.Backend

namespace Alert

open Store

/-! ## Sendings -/

namespace Telegram

namespace Outcome

def Arrived : Outcome → Prop
  | answered status _ => 200 ≤ status ∧ status < 300
  | unanswered _ _ => False

instance : DecidablePred Arrived
  | answered status _ => inferInstanceAs (Decidable (200 ≤ status ∧ status < 300))
  | unanswered _ _ => inferInstanceAs (Decidable False)

/-- What is told of a sending with which the message did not arrive. -/
def text : Outcome → String
  | answered status body => s!"statusCode={status} response={summarize body}"
  | unanswered _ reason => reason

/-- The message arrived, or will not arrive if it is sent again: the service was not merely too busy
or out of order, and it could be reached. -/
def IsFinal : Outcome → Prop
  | answered status _ =>
    (200 ≤ status ∧ status < 300) ∨ ¬(status = 429 ∨ (500 ≤ status ∧ status < 600))
  | unanswered transient _ => transient = false

theorem isFinal_iff {o : Outcome} : o.IsFinal ↔ o.isTransient = false := by
  cases o with
  | answered status body =>
    simp only [IsFinal, isTransient, Bool.or_eq_false_iff, Bool.and_eq_false_iff,
      decide_eq_false_iff_not]
    omega
  | unanswered transient reason => rfl

theorem failure?_eq (o : Outcome) : o.failure? = if o.Arrived then none else some o.text := by
  cases o <;> rfl

end Outcome

/-- What is asked of a way to make an attempt again. -/
structure Retry.IsLawful {σ : Type} (retry : Retry σ) : Prop where
  /-- One that may not be made again is made once. -/
  once : ∀ attempt worthwhile s, retry attempt worthwhile 0 s = attempt s
  /-- One that is not worth another is the last. -/
  last : ∀ attempt worthwhile n s, worthwhile (attempt s).1 = false →
    retry attempt worthwhile (n + 1) s = attempt s
  /-- Another one is made in the world that the first one left, and then there may be one fewer. -/
  again : ∀ attempt worthwhile n s, worthwhile (attempt s).1 = true →
    retry attempt worthwhile (n + 1) s = retry attempt worthwhile n (attempt s).2

theorem isLawful_retrying {σ : Type} : Retry.IsLawful (retrying (σ := σ)) where
  once _ _ _ := rfl
  last attempt worthwhile n s stop := by
    rw [retrying]
    simp only [stop, Bool.false_eq_true, if_false]
  again attempt worthwhile n s go := by
    rw [retrying]
    simp only [go, if_true]

/-- From a position of a script on, a message is sent once and again as often as a number says: up
to the first outcome that is final, or as often as it may be. -/
structure Tries (outcomes : Nat → Outcome) (limit position again : Nat) : Prop where
  /-- It is sent again as often as it may be at most. -/
  le : again ≤ limit
  /-- No outcome before the last is final. -/
  before : ∀ n < again, ¬(outcomes (position + n)).IsFinal
  /-- The last one is, unless it may not be sent again. -/
  last : (outcomes (position + again)).IsFinal ∨ again = limit

theorem Tries.zero (outcomes : Nat → Outcome) (position : Nat) : Tries outcomes 0 position 0 :=
  ⟨Nat.le_refl 0, fun _ h ↦ absurd h (Nat.not_lt_zero _), .inr rfl⟩

theorem Tries.once {outcomes : Nat → Outcome} {position : Nat} (limit : Nat)
    (final : (outcomes position).IsFinal) : Tries outcomes limit position 0 :=
  ⟨Nat.zero_le limit, fun _ h ↦ absurd h (Nat.not_lt_zero _), .inl final⟩

theorem Tries.succ {outcomes : Nat → Outcome} {limit position again : Nat}
    (first : ¬(outcomes position).IsFinal) (tries : Tries outcomes limit (position + 1) again) :
    Tries outcomes (limit + 1) position (again + 1) := by
  have shift (n : Nat) : position + 1 + n = position + (n + 1) := by omega
  refine ⟨Nat.succ_le_succ tries.le, ?_, ?_⟩
  · rintro (_ | n) le
    · exact first
    · rw [← shift]
      exact tries.before n (Nat.lt_of_succ_lt_succ le)
  · rw [← shift]
    exact tries.last.imp_right (congrArg (· + 1))

/-- The record of an alert after the last of its sendings. -/
structure Reports (now : Time.Instant) (alert : Incident × AlertKind) (o : Outcome)
    (r : AlertRecord) : Prop where
  incident : r.incident = alert.1.id
  kind : r.kind = alert.2
  sentAt : r.sentAt = now
  channel : r.channel = .telegram
  /-- It says that the alert was sent exactly if it arrived. -/
  sent_iff : r.status = .sent ↔ o.Arrived
  /-- It holds the text of a sending that failed. -/
  failed : ¬o.Arrived → r.failure = some o.text

/-- The messages and the records of alerts that are delivered one after another, from a position of
a script on.  Every alert is handled, and hands over a record of its own. -/
inductive Delivers (outcomes : Nat → Outcome) (w : Writer) (a : Announcement) :
    Nat → List (Incident × AlertKind) → List String → List (List AlertRecord) → Prop
  | nil {position : Nat} : Delivers outcomes w a position [] [] []
  /-- The first alert is sent up to its last outcome, and the others begin after that. -/
  | cons {position again : Nat} {alert : Incident × AlertKind} {r : AlertRecord}
      {alerts : List (Incident × AlertKind)} {messages : List String}
      {records : List (List AlertRecord)} (tries : Tries outcomes maxRetries position again)
      (reports : Reports a.now alert (outcomes (position + again)) r)
      (rest : Delivers outcomes w a (position + again + 1) alerts messages records) :
      Delivers outcomes w a position (alert :: alerts)
        (List.replicate (again + 1) (w.message a alert) ++ messages) ([r] :: records)

end Telegram

/-! ## Scenes -/

open Telegram

/-- A world in which a chat service and a recorder do what a script says, with all that they were
handed so far.  `outside` is what other publishers work with. -/
structure Scene (τ : Type) where
  /-- How the sendings go, the first one first. -/
  outcomes : Nat → Outcome
  /-- Which of the calls of the recorder fail, and why. -/
  refusals : Nat → Option StoreError
  sent : List String
  /-- The records handed to the recorder at each of its calls, whether it kept them or not. -/
  handed : List (List AlertRecord)
  /-- The store, which keeps the records that are not refused. -/
  store : Backend
  board : Board
  outside : τ

namespace Scene

variable {τ : Type}

def withStore (b : Backend) (s : Scene τ) : Scene τ := { s with store := b }

def withBoard (b : Board) (s : Scene τ) : Scene τ := { s with board := b }

/-- Sends a message, which goes as the script says next. -/
def send (message : String) (s : Scene τ) : Outcome × Scene τ :=
  (s.outcomes s.sent.length, { s with sent := s.sent ++ [message] })

/-- Hands records to the recorder, which fails if the script says so next, or if the store does. -/
def record : Recorder (Scene τ) := fun records s ↦
  let after := { s with handed := s.handed ++ [records] }
  match s.refusals s.handed.length with
  | some e => (some e, after)
  | none => Recorder.within store withStore Backend.record records after

end Scene

/-! ### The chat channel -/

namespace Telegram

variable {τ : Type} {s : Scene τ} {retry : Retry (Scene τ)} (lawful : retry.IsLawful)

include lawful in
theorem retry_scene (message : String) (limit : Nat) (s : Scene τ) :
    ∃ again, Tries s.outcomes limit s.sent.length again ∧
      retry (Scene.send message) Outcome.isTransient limit s =
        (s.outcomes (s.sent.length + again),
          { s with sent := s.sent ++ List.replicate (again + 1) message }) := by
  induction limit generalizing s with
  | zero => exact ⟨0, .zero _ _, lawful.once _ _ _⟩
  | succ limit ih =>
    by_cases final : (s.outcomes s.sent.length).IsFinal
    · exact ⟨0, .once _ final, lawful.last _ _ _ _ (Outcome.isFinal_iff.1 final)⟩
    · obtain ⟨again, tries, eq⟩ := ih (Scene.send message s).2
      have shift : (s.sent ++ [message]).length + again = s.sent.length + (again + 1) := by
        simp; omega
      simp only [Scene.send, List.length_append, List.length_singleton] at tries
      refine ⟨again + 1, .succ final tries, ?_⟩
      rw [Outcome.isFinal_iff, Bool.not_eq_false] at final
      rw [lawful.again _ _ _ _ final, eq]
      simp only [Scene.send]
      rw [shift, List.append_assoc, List.singleton_append, ← List.replicate_succ]

/-- The recorder is handed records, whether it keeps them or not, and changes nothing else. -/
theorem record_scene (records : List AlertRecord) (s : Scene τ) :
    ∃ b : Backend, b.bare = s.store.bare ∧
      (Scene.record records s).2 = { s with handed := s.handed ++ [records], store := b } := by
  unfold Scene.record
  cases s.refusals s.handed.length with
  | some e => exact ⟨s.store, rfl, rfl⟩
  | none =>
    unfold Recorder.within
    dsimp only
    split
    · rename_i kept
      exact ⟨_, Backend.bare_record kept, rfl⟩
    · exact ⟨s.store, rfl, rfl⟩

include lawful in
/-- An alert is sent up to its last outcome, and leaves one record of that. -/
theorem deliver_scene (w : Writer) (a : Announcement) (alert : Incident × AlertKind)
    (s : Scene τ) : ∃ again r, ∃ b : Backend, b.bare = s.store.bare ∧
      Tries s.outcomes maxRetries s.sent.length again ∧
      Reports a.now alert (s.outcomes (s.sent.length + again)) r ∧
      deliver retry Scene.send Scene.record w a alert s =
        { s with
          sent := s.sent ++ List.replicate (again + 1) (w.message a alert)
          handed := s.handed ++ [[r]]
          store := b } := by
  obtain ⟨again, tries, eq⟩ := retry_scene lawful (w.message a alert) maxRetries s
  rw [deliver, eq]
  obtain ⟨b, bare, recorded⟩ := record_scene [⟨alert.1.id, alert.2, a.now, .telegram,
    (s.outcomes (s.sent.length + again)).failure?⟩]
    { s with sent := s.sent ++ List.replicate (again + 1) (w.message a alert) }
  refine ⟨again, _, b, bare, tries, ⟨rfl, rfl, rfl, rfl, ?_, ?_⟩, recorded⟩
  · simp [AlertRecord.status, Outcome.failure?_eq]
  · intro failed
    simp [Outcome.failure?_eq, failed]

include lawful in
/-- The chat channel handles every alert, and never fails as a whole. -/
theorem publisher_scene (w : Writer) (a : Announcement) (s : Scene τ) :
    (publisherWith retry Scene.send Scene.record w a s).1 = none ∧
      ∃ messages records, ∃ b : Backend, b.bare = s.store.bare ∧
      Delivers s.outcomes w a s.sent.length a.transition.alerts messages records ∧
      (publisherWith retry Scene.send Scene.record w a s).2 =
        { s with sent := s.sent ++ messages, handed := s.handed ++ records, store := b } := by
  refine ⟨rfl, ?_⟩
  show ∃ messages records, ∃ b : Backend, _ ∧ _ ∧ a.transition.alerts.foldl _ s = _
  induction a.transition.alerts generalizing s with
  | nil => exact ⟨[], [], s.store, rfl, .nil, by simp⟩
  | cons alert alerts ih =>
    obtain ⟨again, r, b, bare, tries, reports, first⟩ := deliver_scene lawful w a alert s
    obtain ⟨messages, records, b', bare', rest, eq⟩ :=
      ih (deliver retry Scene.send Scene.record w a alert s)
    rw [List.foldl_cons, eq]
    rw [first] at bare' rest ⊢
    simp only [List.length_append, List.length_replicate] at rest
    exact ⟨_, _, b', bare'.trans bare, .cons tries reports rest, by simp⟩

end Telegram

/-! ## Several publishers -/

section together

variable {σ : Type} {a : Announcement}

/-- Each publisher has one turn, in the world that the one before it left; with the answers and the
world at the end. -/
inductive Turns (a : Announcement) :
    List (Publisher σ) → σ → List (Option AlertError) → σ → Prop
  | nil {s : σ} : Turns a [] s [] s
  /-- The first has its turn, and then the others, whatever it answers. -/
  | cons {p : Publisher σ} {rest : List (Publisher σ)} {s s' : σ}
      {answers : List (Option AlertError)} (others : Turns a rest (p a s).2 answers s') :
      Turns a (p :: rest) s ((p a s).1 :: answers) s'

/-- Publishers together all have their turn, and answer with the first failure. -/
theorem turns_together (l : List (Publisher σ)) (a : Announcement) (s : σ) :
    ∃ answers, Turns a l s answers (together l a s).2 ∧
      (together l a s).1 = answers.findSome? id := by
  induction l generalizing s with
  | nil => exact ⟨[], .nil, rfl⟩
  | cons p rest ih =>
    obtain ⟨answers, turns, first⟩ := ih (p a s).2
    refine ⟨_, .cons turns, ?_⟩
    show (p a s).1.or (together rest a (p a s).2).1 = _
    rw [first, List.findSome?_cons]
    cases (p a s).1 <;> rfl

end together

/-! ### What publishers leave alone -/

section Leaves

variable {σ α : Type} {see : σ → α}

/-- A publisher leaves what can be seen of a world as it is. -/
def Leaves (see : σ → α) (p : Publisher σ) : Prop := ∀ a s, see (p a s).2 = see s

/-- What every publisher leaves alone, all of them together do. -/
theorem leaves_together {l : List (Publisher σ)} (all : ∀ p ∈ l, Leaves see p) :
    Leaves see (together l) := by
  induction l with
  | nil => exact fun a s ↦ rfl
  | cons p rest ih =>
    obtain ⟨first, others⟩ := List.forall_mem_cons.1 all
    intro a s
    rw [together_cons, ih others, first]

variable {retry : Retry σ} (lawful : retry.IsLawful) {send : String → σ → Outcome × σ}
  {record : Recorder σ} (sends : ∀ m s, see (send m s).2 = see s)
  (records : ∀ l s, see (record l s).2 = see s)

include records in
theorem leaves_recording : Leaves see (recording record) := by
  intro a s
  rw [recording]
  split
  · rfl
  · exact records _ s

include lawful sends in
theorem Telegram.see_retry (message : String) (limit : Nat) (s : σ) :
    see (retry (send message) Outcome.isTransient limit s).2 = see s := by
  induction limit generalizing s with
  | zero => rw [lawful.once, sends]
  | succ limit ih =>
    cases go : (send message s).1.isTransient with
    | false => rw [lawful.last _ _ _ _ go, sends]
    | true => rw [lawful.again _ _ _ _ go, ih, sends]

include lawful sends records in
/-- The chat channel leaves alone what sending and recording do. -/
theorem Telegram.leaves_publisher (w : Writer) :
    Leaves see (publisherWith retry send record w) := by
  intro a s
  show see (a.transition.alerts.foldl _ s) = _
  induction a.transition.alerts generalizing s with
  | nil => rfl
  | cons alert alerts ih =>
    have sent := see_retry lawful sends (w.message a alert) maxRetries s
    rw [List.foldl_cons, ih, deliver]
    exact (records _ _).trans sent

end Leaves

/-! ### Delegates -/

/-- A publisher of a scene. -/
inductive Delegate (τ : Type) where
  | chat (w : Writer)
  /-- The publisher that hands all records to the recorder at once. -/
  | recording
  | board
  /-- Any other, which works outside. -/
  | other (p : Publisher τ)

namespace Delegate

variable {τ : Type}

/-- What a delegate does, where messages are sent again as `retry` says. -/
def publisher (retry : Retry (Scene τ)) : Delegate τ → Publisher (Scene τ)
  | chat w => Telegram.publisherWith retry Scene.send Scene.record w
  | recording => Alert.recording Scene.record
  | board => posting Scene.board Scene.withBoard
  | other p => fun a s ↦ ((p a s.outside).1, { s with outside := (p a s.outside).2 })

/-- No delegate changes more of the store than the records of alerts. -/
theorem leaves_bare {retry : Retry (Scene τ)} (lawful : retry.IsLawful) (d : Delegate τ) :
    Leaves (·.store.bare) (d.publisher retry) := by
  have records (l : List AlertRecord) (s : Scene τ) :
      (Scene.record l s).2.store.bare = s.store.bare := by
    obtain ⟨b, bare, eq⟩ := Telegram.record_scene l s
    rw [eq]
    exact bare
  cases d with
  | chat w => exact Telegram.leaves_publisher lawful (fun _ _ ↦ rfl) records w
  | recording =>
    show Leaves (fun s : Scene τ ↦ s.store.bare) (Alert.recording Scene.record)
    exact leaves_recording records
  | board =>
    intro a s
    rw [publisher, posting]
    dsimp only
    split <;> rfl
  | other p => exact fun a s ↦ rfl

end Delegate

end Alert

end Cascade
