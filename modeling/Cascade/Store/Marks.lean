import Cascade.IdMap
import Cascade.Signal.Basic
import Cascade.Store.Error

/-!
# Marked components and recent signals

Components whose signals changed are marked until a pass takes all marks at once.  Recent signals
are indexed on the side; nothing depends on the index.  Both can be told to refuse.
-/

namespace Cascade.Store

/-- The components whose signals changed since their last pass. -/
structure Marks where
  ids : IdSet
  closed : Bool
deriving Inhabited

namespace Marks

def empty : Marks := ⟨∅, false⟩

def mark (id : ComponentId) (m : Marks) : Except StoreError Marks :=
  if m.closed then .error (.unavailable .dirty) else .ok { m with ids := m.ids.add id }

/-- Marks a component, or leaves the marks alone where they are refused. -/
def markIfOpen (id : ComponentId) (m : Marks) : Marks :=
  match m.mark id with
  | .ok m => m
  | .error _ => m

def drain (m : Marks) : IdSet × Marks := (m.ids, { m with ids := ∅ })

end Marks

/-- An index of recent signals. -/
structure Buckets where
  signals : List (ComponentId × Signal)
  closed : Bool
deriving Inhabited

namespace Buckets

def empty : Buckets := ⟨[], false⟩

def add (id : ComponentId) (s : Signal) (b : Buckets) : Except StoreError Buckets :=
  if b.closed then .error (.unavailable .buckets)
  else .ok { b with signals := b.signals ++ [(id, s)] }

/-- Indexes a signal, or leaves the index alone where signals are refused. -/
def addIfOpen (id : ComponentId) (s : Signal) (b : Buckets) : Buckets :=
  match b.add id s with
  | .ok b => b
  | .error _ => b

def of (b : Buckets) (id : ComponentId) : List Signal :=
  (b.signals.filter fun e ↦ e.1 = id).map (·.2)

end Buckets

end Cascade.Store
