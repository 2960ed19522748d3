import Cascade.Alert.Publisher
import Cascade.Evaluation.Pass

/-!
# Passes that announce what they find

A pass that succeeds hands its transition to a publisher.  What becomes of the announcement changes
neither the answer of the pass nor what it wrote.

`runAnnounced_fst` says so for the answer.
-/

namespace Cascade.Evaluation

open Store Alert

structure World (σ : Type) where
  store : σ
  board : Board
deriving Inhabited

namespace World

variable {σ : Type}

def withStore (s : σ) (w : World σ) : World σ := { w with store := s }

def withBoard (b : Board) (w : World σ) : World σ := { w with board := b }

/-- Puts announcements on the board and then into the records of the store. -/
def publisher (record : List AlertRecord → σ → Except StoreError σ) : Publisher (World σ) :=
  together [posting World.board World.withBoard,
    recording (.within World.store World.withStore record)]

end World

variable {σ : Type}

def accessWithin (a : Access σ) : Access (World σ) where
  find id w := a.find id w.store
  loadStates w := a.loadStates w.store
  loadActive w := a.loadActive w.store
  saveStates states w := (a.saveStates states w.store).map (World.withStore · w)
  saveTransition t w := (a.saveTransition t w.store).map (World.withStore · w)

def runAnnounced (a : Access σ) (publish : Publisher σ) (setup : Setup)
    (fresh : ComponentId → IncidentId) (dirty : IdSet) (now : Time.Instant) (s : σ) :
    Except PassError Report × σ :=
  match run a setup fresh dirty now s with
  | (.error e, s) => (.error e, s)
  | (.ok r, s) => (.ok r, (publish ⟨r.transition, r.effective, setup.graph, now⟩ s).2)

/-- The answer of a pass does not hang on the publisher. -/
theorem runAnnounced_fst (a : Access σ) (publish : Publisher σ) (setup : Setup)
    (fresh : ComponentId → IncidentId) (dirty : IdSet) (now : Time.Instant) (s : σ) :
    (runAnnounced a publish setup fresh dirty now s).1 = (run a setup fresh dirty now s).1 := by
  rw [runAnnounced]
  split <;> simp_all

end Cascade.Evaluation
