import Cascade.Store.Access

/-!
# Either kind of store

A store is kept within the program or in durable tables, as the settings say.  Both answer the same
questions; only what comes from a table can turn out to be unreadable.
-/

namespace Cascade.Store

/-- A store of either kind. -/
inductive Backend where
  | memory (m : Memory)
  | durable (t : Tables)
deriving Inhabited

namespace Backend

def append (r : SignalRecord) : Backend → Except StoreError (AppendOutcome × Backend)
  | memory m => .ok ((m.append r).1, memory (m.append r).2)
  | durable t => (t.append r).map fun (outcome, t) ↦ (outcome, durable t)

def saveStates (states : StateMap) : Backend → Except StoreError Backend
  | memory m => (m.saveStates states).map memory
  | durable t => .ok (durable (t.saveStates states))

def saveTransition (tr : Transition) : Backend → Except StoreError Backend
  | memory m => (m.saveTransition tr).map memory
  | durable t => (t.saveTransition tr).map durable

def record (records : List AlertRecord) : Backend → Except StoreError Backend
  | memory m => (m.record records).map memory
  | durable t => (t.record records).map durable

def access : Access Backend where
  find id
    | memory m => Memory.access.find id m
    | durable t => Tables.access.find id t
  loadStates
    | memory m => Memory.access.loadStates m
    | durable t => Tables.access.loadStates t
  loadActive
    | memory m => Memory.access.loadActive m
    | durable t => Tables.access.loadActive t
  saveStates := saveStates
  saveTransition := saveTransition

/-! ### Everything that is kept -/

def recordOf (id : ComponentId) (row : SignalRow) : Except StoreError SignalRecord := do
  let signal ← Tables.readSignal row
  return ⟨id, signal, row.source, .ofNanos row.ingestedAt, row.key⟩

def records (id : ComponentId) : Backend → Except StoreError (List SignalRecord)
  | memory m => .ok (m.log.of id)
  | durable t => (t.signalRows id).mapM (recordOf id)

def count : Backend → Nat
  | memory m => m.log.records.length
  | durable t => t.signals.length

def incidents : Backend → Except StoreError (List Incident)
  | memory m => .ok m.book.incidents.values
  | durable t => t.incidents.mapM Tables.readIncident

def alerts : Backend → Except StoreError (List AlertRecord)
  | memory m => .ok m.alerts
  | durable t => t.alerts.mapM Tables.readAlert

end Backend

end Cascade.Store
