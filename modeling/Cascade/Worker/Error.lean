import Cascade.Store.Error

/-!
# Why the worker cannot be set up, started or given work
-/

namespace Cascade.Worker

inductive LoopError where
  | invalidCapacity
  /-- The last worker still holds the queue, or broke down with it. -/
  | stillRunning
  | mark (cause : StoreError)
deriving DecidableEq, Repr

/-- What is said of it, where it has a text of its own. -/
def LoopError.message? : LoopError → Option String
  | invalidCapacity => some "Queue capacity must be > 0"
  | stillRunning => some "Previous evaluation worker still holds the wake-up queue"
  | mark cause => cause.message?.map fun m ↦ s!"Dirty store error: {m}"

end Cascade.Worker
