import Cascade.Proofs.Alert.Delivery
import Cascade.Proofs.Evaluation.Interchange

/-!
# Passes do not hang on their announcements

A pass writes before it announces anything.  `AccessAlike.run` compares passes over two worlds that
show a pass the same.  With the publishers of a scene, the answer of a pass and everything that it
leaves in the store but records of alerts are those of a pass that announces nothing, whatever the
chat service, the recorder, the board and others make of it (`runAnnounced_scene`).

`Scene.delivery_isolated` puts this together with what is delivered.
-/

namespace Cascade

namespace Store.Backend

variable {b : Backend}

theorem saveStates_bare (states : StateMap) :
    b.bare.saveStates states = (b.saveStates states).map bare := by
  cases b with
  | memory m =>
    rw [bare, saveStates, saveStates, Memory.saveStates, Memory.saveStates]
    split <;> rfl
  | durable t => rfl

theorem saveTransition_bare (tr : Transition) :
    b.bare.saveTransition tr = (b.saveTransition tr).map bare := by
  cases b with
  | memory m =>
    rw [bare, saveTransition, saveTransition, Memory.saveTransition, Memory.saveTransition]
    split <;> rfl
  | durable t =>
    rw [bare, saveTransition, saveTransition, Tables.saveTransition, Tables.saveTransition]
    dsimp only
    cases tr.opened.foldlM Tables.addOpened t.incidents with
    | error e => rfl
    | ok rows =>
      show Except.map _ (tr.resolved.foldlM Tables.putResolved rows >>= _) =
        Except.map _ (Except.map _ (tr.resolved.foldlM Tables.putResolved rows >>= _))
      cases tr.resolved.foldlM Tables.putResolved rows <;> rfl

end Store.Backend

namespace Evaluation

open Store Alert

/-! ## Passes over worlds that are alike -/

/-- Related worlds show a pass the same, and what it writes leaves them related. -/
structure AccessAlike {σ τ : Type} (a : Access σ) (b : Access τ) (R : σ → τ → Prop) : Prop where
  find : ∀ {s t}, R s t → ∀ id, a.find id s = b.find id t
  loadStates : ∀ {s t}, R s t → a.loadStates s = b.loadStates t
  loadActive : ∀ {s t}, R s t → a.loadActive s = b.loadActive t
  saveStates : ∀ {s t} states, R s t →
    AnswersAlike R (a.saveStates states s) (b.saveStates states t)
  saveTransition : ∀ {s t} tr, R s t →
    AnswersAlike R (a.saveTransition tr s) (b.saveTransition tr t)

namespace AccessAlike

variable {σ τ : Type} {a : Access σ} {b : Access τ} {R : σ → τ → Prop} {s : σ} {t : τ}

theorem commit (alike : AccessAlike a b R) (r : Report) (related : R s t) :
    (commit a r s).1 = (commit b r t).1 ∧ R (commit a r s).2 (commit b r t).2 := by
  have first := alike.saveTransition r.transition related
  unfold Evaluation.commit
  generalize a.saveTransition r.transition s = left at first
  generalize b.saveTransition r.transition t = right at first
  cases first with
  | error e => exact ⟨rfl, related⟩
  | @ok s' t' related' =>
    have second := alike.saveStates r.effective related'
    dsimp only
    generalize a.saveStates r.effective s' = left at second
    generalize b.saveStates r.effective t' = right at second
    cases second with
    | error e => exact ⟨rfl, related'⟩
    | ok related'' => exact ⟨rfl, related''⟩

/-- Passes over related worlds answer the same, and leave them related. -/
theorem run (alike : AccessAlike a b R) (setup : Setup) (fresh : ComponentId → IncidentId)
    (dirty : IdSet) (now : Time.Instant) (related : R s t) :
    (run a setup fresh dirty now s).1 = (run b setup fresh dirty now t).1 ∧
      R (run a setup fresh dirty now s).2 (run b setup fresh dirty now t).2 := by
  unfold Evaluation.run
  rw [plan_congr (alike.find related) (alike.loadStates related) (alike.loadActive related)]
  cases plan b setup fresh dirty now t with
  | error e => exact ⟨rfl, related⟩
  | ok r =>
    obtain ⟨answers, after⟩ := alike.commit r related
    dsimp only
    generalize Evaluation.commit a r s = left at answers after
    generalize Evaluation.commit b r t = right at answers after
    obtain ⟨answer, s'⟩ := left
    obtain ⟨_, t'⟩ := right
    obtain rfl := answers
    cases answer with
    | error e => exact ⟨rfl, after⟩
    | ok => exact ⟨rfl, after⟩

end AccessAlike

/-! ## Passes in a scene -/

namespace Scene

variable {τ : Type} {retry : Telegram.Retry (Scene τ)}

def access : Access (Scene τ) where
  find id s := Backend.access.find id s.store
  loadStates s := Backend.access.loadStates s.store
  loadActive s := Backend.access.loadActive s.store
  saveStates states s := (s.store.saveStates states).map fun b ↦ s.withStore b
  saveTransition tr s := (s.store.saveTransition tr).map fun b ↦ s.withStore b

/-- A scene shows a pass what its store shows without the records of alerts. -/
theorem accessAlike :
    AccessAlike access Backend.access fun (s : Scene τ) b ↦ s.store.bare = b where
  find := by
    rintro s _ rfl id
    show Backend.access.find id s.store = _
    cases s.store <;> rfl
  loadStates := by
    rintro s _ rfl
    show Backend.access.loadStates s.store = _
    cases s.store <;> rfl
  loadActive := by
    rintro s _ rfl
    show Backend.access.loadActive s.store = _
    cases s.store <;> rfl
  saveStates := by
    rintro s _ states rfl
    show AnswersAlike _ ((s.store.saveStates states).map fun b ↦ s.withStore b)
      (s.store.bare.saveStates states)
    rw [Backend.saveStates_bare]
    refine .of_map (fun b ↦ ?_) _
    rfl
  saveTransition := by
    rintro s _ tr rfl
    show AnswersAlike _ ((s.store.saveTransition tr).map fun b ↦ s.withStore b)
      (s.store.bare.saveTransition tr)
    rw [Backend.saveTransition_bare]
    refine .of_map (fun b ↦ ?_) _
    rfl

/-- A pass of a scene answers, and leaves in the store, what a pass that announces nothing does. -/
theorem runAnnounced_scene (lawful : retry.IsLawful) (ds : List (Delegate τ)) (setup : Setup)
    (fresh : ComponentId → IncidentId) (dirty : IdSet) (now : Time.Instant) (s : Scene τ) :
    let announced := runAnnounced access (together (ds.map (Delegate.publisher retry))) setup fresh
      dirty now s
    let plain := run Backend.access setup fresh dirty now s.store.bare
    announced.1 = plain.1 ∧ announced.2.store.bare = plain.2 := by
  obtain ⟨answers, after⟩ := accessAlike.run setup fresh dirty now (s := s) rfl
  have leaves : Leaves (·.store.bare) (together (ds.map (Delegate.publisher retry))) := by
    refine leaves_together fun p mem ↦ ?_
    obtain ⟨d, -, rfl⟩ := List.mem_map.1 mem
    exact d.leaves_bare lawful
  refine ⟨(runAnnounced_fst ..).trans answers, ?_⟩
  rw [runAnnounced]
  split
  · rename_i went
    rw [went] at after
    exact after
  · rename_i went
    rw [went] at after
    exact (leaves _ _).trans after

/-- In every scene, for every announcement and for every lawful way to send a message again: the
chat channel handles each alert in turn and never fails; several publishers have one turn each and
answer with the first failure; and whatever the delegates of a pass come to, its answer and its
store are those of a pass without them, but for the records of alerts. -/
theorem delivery_isolated (lawful : retry.IsLawful) (s : Scene τ) (a : Announcement) :
    (∀ w, ((Delegate.chat w).publisher retry a s).1 = none ∧
      ∃ messages records, ∃ b : Backend, b.bare = s.store.bare ∧
        Telegram.Delivers s.outcomes w a s.sent.length a.transition.alerts messages records ∧
        ((Delegate.chat w).publisher retry a s).2 =
          { s with sent := s.sent ++ messages, handed := s.handed ++ records, store := b }) ∧
    (∀ l : List (Publisher (Scene τ)), ∃ answers,
      Turns a l s answers (together l a s).2 ∧ (together l a s).1 = answers.findSome? id) ∧
    ∀ (ds : List (Delegate τ)) setup fresh dirty now,
      let announced :=
        runAnnounced access (together (ds.map (Delegate.publisher retry))) setup fresh dirty now s
      let plain := run Backend.access setup fresh dirty now s.store.bare
      announced.1 = plain.1 ∧ announced.2.store.bare = plain.2 := by
  exact ⟨fun w ↦ Telegram.publisher_scene lawful w a s, fun l ↦ turns_together l a s,
    fun ds setup fresh dirty now ↦ runAnnounced_scene lawful ds setup fresh dirty now s⟩

end Scene

/-! ### A busy service -/

namespace Busy

def incident : Incident := .begin default default (.ofNanos 0)

/-- One incident that opened and ended at once. -/
def announcement : Announcement :=
  ⟨⟨[incident], [incident]⟩, ∅, Graph.empty, .ofNanos 0⟩

def writer : Telegram.Writer := ⟨∅, ⟨"shop", "test", none⟩⟩

/-- The service is busy at first, and refuses the second alert.  The record of the first one is
lost. -/
def scene : Scene Unit where
  outcomes n :=
    [Telegram.Outcome.answered 503 "", .answered 200 "", .answered 404 "gone"].getD n
      (.unanswered true "timeout")
  refusals n := if n = 0 then some .database else none
  sent := []
  handed := []
  store := .memory .empty
  board := .empty
  outside := ()

/-- The first message is sent twice and the second once, each with a record of its own. -/
theorem delivered :
    let after := ((Delegate.chat writer).publisher Telegram.retrying announcement scene).2
    (∃ messages records, after.sent = messages ∧ after.handed = records ∧
      Telegram.Delivers scene.outcomes writer announcement 0
        [(incident, .opened), (incident, .resolved)] messages records) ∧
    after.sent.length = 3 ∧
    after.handed = [[⟨default, .opened, .ofNanos 0, .telegram, none⟩],
      [⟨default, .resolved, .ofNanos 0, .telegram, some "statusCode=404 response=gone"⟩]] := by
  obtain ⟨-, messages, records, b, -, delivers, eq⟩ :=
    (Scene.delivery_isolated Telegram.isLawful_retrying scene announcement).1 writer
  refine ⟨⟨messages, records, ?_, ?_, delivers⟩, rfl, rfl⟩
  · rw [eq]
    rfl
  · rw [eq]
    rfl

end Busy

end Evaluation

end Cascade
