import Cascade.Evaluation.Announced
import Cascade.Store.Backend
import Cascade.Store.Marks
import Cascade.Worker.Queue

/-!
# What ingestion and evaluation share

Signals come in on one side and passes look at them on the other.  Both meet in a store, in the
marks of changed components, and in the queue of wake-ups.
-/

namespace Cascade

open Store

/-- The stores, the marks and the queue. -/
structure Site where
  world : Evaluation.World Backend
  buckets : Buckets
  marks : Marks
  queue : Worker.Queue
  /-- Whether the store takes no signals. -/
  logClosed : Bool

namespace Site

def empty (queue : Worker.Queue) : Site :=
  ⟨⟨.memory .empty, .empty⟩, .empty, .empty, queue, false⟩

def append (r : SignalRecord) (s : Site) : Except StoreError (AppendOutcome × Site) :=
  if s.logClosed then .error (.unavailable .signals)
  else (s.world.store.append r).map fun (outcome, b) ↦
    (outcome, { s with world := s.world.withStore b })

def mark (id : ComponentId) (s : Site) : Except StoreError Site :=
  (s.marks.mark id).map fun m ↦ { s with marks := m }

def markIfOpen (id : ComponentId) (s : Site) : Site := { s with marks := s.marks.markIfOpen id }

/-- Wakes the worker for a component; tells whether the wake-up found room. -/
def wake (id : ComponentId) (s : Site) : Bool × Site :=
  let (added, q) := s.queue.push id
  (added, { s with queue := q })

def submit (id : ComponentId) (s : Site) : Except StoreError (Bool × Site) :=
  (s.mark id).map (wake id)

end Site

end Cascade
