import Cascade.Signal.Severity
import Cascade.Time.Instant
import Cascade.Uuid

/-!
# Signals

A signal says how bad a component was found at an instant.  What is kept of it also says who sent
it, when it arrived, and under which key it must not arrive again.
-/

namespace Cascade

abbrev ComponentId := Uuid

namespace ComponentId

def namespaceId : Uuid :=
  ⟨[0x3c, 0x1f, 0x8e, 0x52, 0x07, 0x4b, 0x5d, 0x2a, 0x9e, 0x61, 0xd4, 0x0b, 0x7c, 0x33, 0xa5, 0x90],
    rfl⟩

def ofName (name : String) : ComponentId := Uuid.named namespaceId name

end ComponentId

/-- What a component's health was at an instant. -/
structure Signal where
  severity : Severity
  occurredAt : Time.Instant
deriving DecidableEq, Repr, Inhabited

/-- A signal as it is kept. -/
structure SignalRecord where
  component : ComponentId
  signal : Signal
  source : String
  ingestedAt : Time.Instant
  /-- The key under which it must not be taken in again. -/
  key : Option String
deriving DecidableEq, Repr, Inhabited

end Cascade
