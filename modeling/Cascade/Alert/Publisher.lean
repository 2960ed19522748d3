import Cascade.Alert.Record
import Cascade.Graph.Topology
import Cascade.State.Basic
import Cascade.Store.Error

/-!
# Publishers

A publisher announces a transition and may change the world that it lives in.  Several publishers
together all have their turn, whatever becomes of the others, and the first failure is the one that
is told.

`together_cons` says that a failure of one publisher keeps no other from its turn.
-/

namespace Cascade.Alert

inductive AlertError where
  | delivery (channel : AlertChannel) (message : String)
  | recording (cause : StoreError)
  | configuration (message : String)
deriving DecidableEq, Repr

/-- What is said of a failed announcement, where it has a text of its own. -/
def AlertError.message? : AlertError → Option String
  | delivery channel message => some s!"Delivery via {channel.name} failed: {message}"
  | recording cause => cause.message?.map fun m ↦ s!"Failed to record delivery: {m}"
  | configuration message => some s!"Alert configuration error: {message}"

/-- A transition and the look at the components that it comes from. -/
structure Announcement where
  transition : Transition
  states : StateMap
  graph : Graph
  now : Time.Instant

/-- Announces transitions in a world `σ`. -/
abbrev Publisher (σ : Type) := Announcement → σ → Option AlertError × σ

variable {σ : Type}

/-- All publishers, each in its turn; the first failure is told. -/
def together : List (Publisher σ) → Publisher σ
  | [] => fun _ s ↦ (none, s)
  | p :: rest => fun a s ↦
    let (first, s) := p a s
    let (later, s) := together rest a s
    (first.or later, s)

/-- The others have their turn in the world that the first leaves. -/
theorem together_cons (p : Publisher σ) (rest : List (Publisher σ)) (a : Announcement) (s : σ) :
    (together (p :: rest) a s).2 = (together rest a (p a s).2).2 := rfl

def failing (channel : AlertChannel) (message : String) : Publisher σ :=
  fun _ s ↦ (some (.delivery channel message), s)

/-- Keeps records of alerts in a world `σ`, or tells why not. -/
abbrev Recorder (σ : Type) := List AlertRecord → σ → Option StoreError × σ

def Recorder.within {τ : Type} (get : τ → σ) (set : σ → τ → τ)
    (record : List AlertRecord → σ → Except StoreError σ) : Recorder τ := fun records w ↦
  match record records (get w) with
  | .ok s => (none, set s w)
  | .error e => (some e, w)

/-- Hands the records of all alerts to a recorder at once, as delivered within the program.  A
transition without alerts is not recorded. -/
def recording (record : Recorder σ) : Publisher σ := fun a s ↦
  if a.transition.isEmpty then (none, s)
  else
    let (e, s) := record (a.transition.alerts.map (.internal a.now)) s
    (e.map .recording, s)

/-- The transitions announced so far, for whoever wants to look at them. -/
structure Board where
  /-- The transitions, each with the time of its announcement. -/
  published : List (Transition × Time.Instant)
  closed : Bool
deriving DecidableEq, Repr, Inhabited

def Board.empty : Board := ⟨[], false⟩

def posting (get : σ → Board) (set : Board → σ → σ) : Publisher σ := fun a s ↦
  let board := get s
  if board.closed then (some (.delivery .internal "publisher configured to fail"), s)
  else (none, set { board with published := board.published ++ [(a.transition, a.now)] } s)

end Cascade.Alert
