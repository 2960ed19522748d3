import Cascade.Store.Memory

/-!
# Durable tables

The same stores as rows of numbers and texts: ids are texts, codes are numbers and instants are
signed 64-bit counts of nanoseconds.  A write either goes in as a whole or changes nothing.  What
is read may have been put there by someone else, so every row is checked.

`find`, `loadStates` and `loadActive` read back what `append`, `saveStates` and `saveTransition`
wrote.
-/

namespace Cascade.Store

open Time

/-! ### Rows -/

structure ComponentRow where
  id : String
  /-- The name, which no other row has. -/
  name : String
deriving DecidableEq, Repr

structure SignalRow where
  /-- The id of the row, where it did not get a new one. -/
  id : Option String
  component : String
  severity : Int
  source : String
  occurredAt : Int
  ingestedAt : Int
  /-- Its key, which no other row has. -/
  key : Option String
deriving DecidableEq, Repr

structure StateRow where
  /-- The id of the component, which no other row has. -/
  component : String
  state : Int
deriving DecidableEq, Repr

structure IncidentRow where
  id : String
  /-- The id of the root; no two rows with status 0 have the same. -/
  root : String
  startedAt : Int
  resolvedAt : Option Int
  status : Int
deriving DecidableEq, Repr

structure AlertRow where
  incident : String
  kind : AlertKind
  sentAt : Int
  channel : AlertChannel
  failure : Option String
deriving DecidableEq, Repr

/-- The tables, each with its rows in the order in which they came. -/
structure Tables where
  components : List ComponentRow
  /-- Declared dependencies, upstream before downstream. -/
  dependencies : List (String × String)
  signals : List SignalRow
  states : List StateRow
  incidents : List IncidentRow
  alerts : List AlertRow
deriving DecidableEq, Repr, Inhabited

namespace Tables

def empty : Tables := ⟨[], [], [], [], [], []⟩

/-! ### Columns -/

def instantColumn (t : Instant) : Except StoreError Int :=
  match t.toWord? with
  | some n => .ok n
  | none => .error (.timestampOutOfRange t)

def optInstantColumn : Option Instant → Except StoreError (Option Int)
  | none => .ok none
  | some t => (instantColumn t).map some

/-- A text goes into a table unless it holds a zero character. -/
def textColumn (s : String) : Except StoreError String :=
  if s.toList.any (· = '\x00') then .error .database else .ok s

def readId (s : String) : Except StoreError Uuid :=
  match Uuid.ofText? s with
  | some id => .ok id
  | none => .error .invalidId

def readCode {α : Type} (kind : CodeKind) (decode : Int → Option α) (n : Int) :
    Except StoreError α :=
  match decode n with
  | some a => .ok a
  | none => .error (.invalidCode kind n)

/-! ### Components and dependencies -/

/-- Declares a component; a known one gets the new name. -/
def seedComponent (rows : List ComponentRow) (c : ComponentId × String) :
    Except StoreError (List ComponentRow) := do
  let id := c.1.toText
  let name ← textColumn c.2
  if rows.any fun r ↦ r.name = name ∧ r.id ≠ id then throw .database
  else if rows.any (·.id = id) then
    return rows.map fun r ↦ if r.id = id then { r with name } else r
  else return rows ++ [⟨id, name⟩]

/-- Declares a dependency; a known one stays as it is. -/
def seedDependency (rows : List (String × String)) (e : ComponentId × ComponentId) :
    List (String × String) :=
  let row := (e.1.toText, e.2.toText)
  if rows.contains row then rows else rows ++ [row]

/-- Declares components and dependencies, all or none. -/
def seed (components : List (ComponentId × String)) (edges : List (ComponentId × ComponentId))
    (t : Tables) : Except StoreError Tables := do
  let rows ← components.foldlM seedComponent t.components
  return { t with components := rows, dependencies := edges.foldl seedDependency t.dependencies }

/-- The declared components in the order of their ids. -/
def listedComponents (t : Tables) : List ComponentRow :=
  t.components.mergeSort fun a b ↦ !(b.id < a.id)

/-- The declared dependencies in the order of their ends. -/
def listedDependencies (t : Tables) : List (String × String) :=
  t.dependencies.mergeSort fun a b ↦ !(b.1 < a.1 || (b.1 = a.1 && b.2 < a.2))

/-! ### Signals -/

/-- Puts a row into the table of signals; no two rows have the same id. -/
def addSignalRow (row : SignalRow) (t : Tables) : Except StoreError Tables :=
  if row.id.isSome ∧ t.signals.any (·.id = row.id) then .error .database
  else .ok { t with signals := t.signals ++ [row] }

def append (r : SignalRecord) (t : Tables) : Except StoreError (AppendOutcome × Tables) := do
  let occurredAt ← instantColumn r.signal.occurredAt
  let ingestedAt ← instantColumn r.ingestedAt
  let source ← textColumn r.source
  let key ← match r.key with
    | none => pure none
    | some k => some <$> textColumn k
  if key.isSome ∧ t.signals.any (·.key = key) then return (.duplicate, t)
  let row := ⟨none, r.component.toText, r.signal.severity.code, source, occurredAt, ingestedAt, key⟩
  return (.inserted, { t with signals := t.signals ++ [row] })

def readSignal (row : SignalRow) : Except StoreError Signal := do
  let severity ← readCode .severity Severity.ofCode? row.severity
  return ⟨severity, .ofNanos row.occurredAt⟩

def signalRows (id : ComponentId) (t : Tables) : List SignalRow :=
  t.signals.filter fun r ↦ r.component = id.toText

/-- The signals of a component by their dates, those of one date in the order in which they
came. -/
def find (id : ComponentId) (t : Tables) : Except StoreError (List Signal) :=
  ((signalRows id t).mergeSort fun a b ↦ a.occurredAt ≤ b.occurredAt).mapM readSignal

/-! ### States -/

/-- Puts a row into the table of states; no two rows have the same component. -/
def addStateRow (row : StateRow) (t : Tables) : Except StoreError Tables :=
  if t.states.any (·.component = row.component) then .error .database
  else .ok { t with states := t.states ++ [row] }

/-- Keeps the state of a component in its row, or in a new one. -/
def putState (rows : List StateRow) (e : ComponentId × ComponentState) : List StateRow :=
  let component := e.1.toText
  if rows.any (·.component = component) then
    rows.map fun r ↦ if r.component = component then { r with state := e.2.code } else r
  else rows ++ [⟨component, e.2.code⟩]

def saveStates (states : StateMap) (t : Tables) : Tables :=
  { t with states := states.entries.foldl putState t.states }

def readState (row : StateRow) : Except StoreError (ComponentId × ComponentState) := do
  let state ← readCode .componentState ComponentState.ofCode? row.state
  let id ← readId row.component
  return (id, state)

def loadStates (t : Tables) : Except StoreError StateMap :=
  (t.states.mapM readState).map IdMap.ofList

/-! ### Incidents -/

/-- Whether a component is the root of an incident with the status of an open one. -/
def hasOpen (rows : List IncidentRow) (root : String) : Bool :=
  rows.any fun r ↦ r.root = root ∧ r.status = IncidentStatus.ongoing.code

/-- Puts a row into the table of incidents; no two rows have the same id, and no two open ones the
same root. -/
def addIncidentRow (row : IncidentRow) (t : Tables) : Except StoreError Tables :=
  if t.incidents.any (·.id = row.id) ∨
      (row.status = IncidentStatus.ongoing.code ∧ hasOpen t.incidents row.root) then
    .error .database
  else .ok { t with incidents := t.incidents ++ [row] }

/-- Keeps a new incident, unless its root has an open one or its id is known. -/
def addOpened (rows : List IncidentRow) (i : Incident) : Except StoreError (List IncidentRow) :=
  let root := i.root.toText
  if hasOpen rows root then .ok rows
  else do
    let resolvedAt ← optInstantColumn i.resolvedAt
    let startedAt ← instantColumn i.startedAt
    let id := i.id.toText
    if rows.any (·.id = id) then return rows
    return rows ++ [⟨id, root, startedAt, resolvedAt, i.status.code⟩]

/-- Writes the end of an incident into its row, if that is the row of an open one. -/
def putResolved (rows : List IncidentRow) (i : Incident) :
    Except StoreError (List IncidentRow) := do
  let resolvedAt ← optInstantColumn i.resolvedAt
  let id := i.id.toText
  return rows.map fun r ↦
    if r.id = id ∧ r.status = IncidentStatus.ongoing.code then
      { r with status := i.status.code, resolvedAt }
    else r

def saveTransition (tr : Transition) (t : Tables) : Except StoreError Tables := do
  let rows ← tr.opened.foldlM addOpened t.incidents
  let rows ← tr.resolved.foldlM putResolved rows
  return { t with incidents := rows }

def readIncident (row : IncidentRow) : Except StoreError Incident := do
  let status ← readCode .incidentStatus IncidentStatus.ofCode? row.status
  let root ← readId row.root
  let id ← readId row.id
  return ⟨id, root, .ofNanos row.startedAt, row.resolvedAt.map .ofNanos, status⟩

/-- The rows of open incidents in the order of the texts of their roots. -/
def openRows (t : Tables) : List IncidentRow :=
  (t.incidents.filter fun r ↦ r.status = IncidentStatus.ongoing.code).mergeSort
    fun a b ↦ !(b.root < a.root)

/-- The open incidents by their roots.  Of two rows whose roots are one id, the later counts. -/
def loadActive (t : Tables) : Except StoreError ActiveIncidents :=
  (t.openRows.mapM readIncident).map fun l ↦ IdMap.ofList (l.map fun i ↦ (i.root, i))

/-! ### Alerts -/

def addAlert (rows : List AlertRow) (r : AlertRecord) : Except StoreError (List AlertRow) := do
  let sentAt ← instantColumn r.sentAt
  let failure ← match r.failure with
    | none => pure none
    | some m => some <$> textColumn m
  return rows ++ [⟨r.incident.toText, r.kind, sentAt, r.channel, failure⟩]

def record (records : List AlertRecord) (t : Tables) : Except StoreError Tables := do
  let rows ← records.foldlM addAlert t.alerts
  return { t with alerts := rows }

def readAlert (row : AlertRow) : Except StoreError AlertRecord := do
  let incident ← readId row.incident
  return ⟨incident, row.kind, .ofNanos row.sentAt, row.channel, row.failure⟩

end Tables

end Cascade.Store
