import Cascade.Alert.Record
import Cascade.State.Basic
import Cascade.Store.Error

/-!
# Stores within the program

Signals, states, incidents and the records of alerts, kept as values.  Each kind of write can be
told to refuse, and a refused write changes nothing.

`IncidentBook.save` keeps at most one open incident for each root.  A new incident whose root has an
open one is passed over, also if the same transition ends that one.
-/

namespace Cascade

/-- What became of a signal that was to be appended. -/
inductive AppendOutcome where
  | inserted
  | duplicate
deriving DecidableEq, Repr

namespace Store

open Time

/-! ### Signals -/

/-- The signals taken in, in their order, and next to them the keys that are used up. -/
structure SignalLog where
  records : List SignalRecord
  /-- The keys that are used up. -/
  keys : List String
  keyed : ∀ key, key ∈ keys ↔ ∃ r ∈ records, r.key = some key
deriving DecidableEq, Repr

namespace SignalLog

def empty : SignalLog := ⟨[], [], by simp⟩

instance : Inhabited SignalLog := ⟨empty⟩

def hasKey (l : SignalLog) (key : String) : Bool := l.keys.contains key

/-- Whether a signal must not be kept a second time. -/
def refuses (l : SignalLog) (r : SignalRecord) : Bool :=
  match r.key with
  | none => false
  | some key => l.hasKey key

/-- Puts a signal last and uses up its key. -/
def push (r : SignalRecord) (l : SignalLog) : SignalLog where
  records := l.records ++ [r]
  keys := r.key.toList ++ l.keys
  keyed key := by
    rw [List.mem_append, Option.mem_toList, l.keyed]
    simp [or_and_right, exists_or, or_comm]

@[simp] theorem records_push (r : SignalRecord) (l : SignalLog) :
    (l.push r).records = l.records ++ [r] := rfl

def append (r : SignalRecord) (l : SignalLog) : AppendOutcome × SignalLog :=
  if l.refuses r then (.duplicate, l) else (.inserted, l.push r)

/-- A key is used up exactly if a signal with it is kept. -/
theorem hasKey_iff {l : SignalLog} {key : String} :
    l.hasKey key = true ↔ ∃ r ∈ l.records, r.key = some key :=
  List.contains_iff_mem.trans (l.keyed key)

def of (l : SignalLog) (id : ComponentId) : List SignalRecord :=
  l.records.filter fun r ↦ r.component = id

def notLater (a b : Signal) : Bool := a.occurredAt ≤ b.occurredAt

/-- The signals of a component by their dates, those of one date in the order in which they were
taken in. -/
def find (l : SignalLog) (id : ComponentId) : List Signal :=
  ((l.of id).map (·.signal)).mergeSort notLater

end SignalLog

/-! ### Incidents -/

/-- All incidents that ever were, by their ids. -/
structure IncidentBook where
  incidents : IdMap Incident
  /-- The transitions saved so far, those without any change left out. -/
  saved : List Transition
deriving Inhabited

namespace IncidentBook

def empty : IncidentBook := ⟨∅, []⟩

def hasOpen (m : IdMap Incident) (root : ComponentId) : Bool :=
  m.values.any fun i ↦ i.isOpen && i.root = root

/-- Keeps a new incident, unless its root has an open one or its id is known. -/
def addOpened (m : IdMap Incident) (i : Incident) : IdMap Incident :=
  if hasOpen m i.root || m.contains i.id then m else m.insert i.id i

/-- Puts an ended incident in the place of the open one of the same id. -/
def putResolved (m : IdMap Incident) (i : Incident) : IdMap Incident :=
  match m.get? i.id with
  | none => m
  | some stored => if stored.isOpen then m.insert i.id i else m

def apply (t : Transition) (m : IdMap Incident) : IdMap Incident :=
  t.resolved.foldl putResolved (t.opened.foldl addOpened m)

def save (t : Transition) (b : IncidentBook) : IncidentBook where
  incidents := apply t b.incidents
  saved := if t.isEmpty then b.saved else b.saved ++ [t]

def active (b : IncidentBook) : ActiveIncidents :=
  IdMap.ofList ((b.incidents.values.filter (·.isOpen)).map fun i ↦ (i.root, i))

end IncidentBook

/-! ### All together -/

/-- Everything that is kept within the program. -/
structure Memory where
  log : SignalLog
  states : StateMap
  book : IncidentBook
  alerts : List AlertRecord
  statesClosed : Bool
  incidentsClosed : Bool
  recorderClosed : Bool
deriving Inhabited

namespace Memory

def empty : Memory := ⟨.empty, ∅, .empty, [], false, false, false⟩

def append (r : SignalRecord) (m : Memory) : AppendOutcome × Memory :=
  let (outcome, log) := m.log.append r
  (outcome, { m with log })

def saveStates (states : StateMap) (m : Memory) : Except StoreError Memory :=
  if m.statesClosed then .error (.unavailable .states)
  else .ok { m with states := m.states.override states }

def saveTransition (t : Transition) (m : Memory) : Except StoreError Memory :=
  if m.incidentsClosed then .error (.unavailable .incidents)
  else .ok { m with book := m.book.save t }

def record (records : List AlertRecord) (m : Memory) : Except StoreError Memory :=
  if m.recorderClosed then .error (.unavailable .recorder)
  else .ok { m with alerts := m.alerts ++ records }

end Memory

end Store

end Cascade
