import Cascade.Time.Written

/-!
# Why a store refuses

The causes for which reading or writing a store fails.  A store that is told to fail says which
part of it refused.  Failures of the durable tables themselves have no text of their own.
-/

namespace Cascade

/-- What a stored number stands for. -/
inductive CodeKind where
  | severity
  | componentState
  | incidentStatus
deriving DecidableEq, Repr

def CodeKind.label : CodeKind → String
  | severity => "severity"
  | componentState => "component state"
  | incidentStatus => "incident status"

/-- The part of a store that refuses. -/
inductive StorePart where
  | states
  | incidents
  | buckets
  | dirty
  | signals
  | recorder
deriving DecidableEq, Repr

def StorePart.refusal : StorePart → String
  | states => "state repository rejected save"
  | incidents => "incident repository rejected save"
  | buckets => "bucket store rejected signal"
  | dirty => "dirty set unavailable"
  | signals => "signal store rejected append"
  | recorder => "recorder rejected records"

inductive StoreError where
  | database
  | migration
  | invalidId
  | timestampOutOfRange (instant : Time.Instant)
  | invalidCode (kind : CodeKind) (code : Int)
  | unknownType (name : String)
  | io
  | unavailable (part : StorePart)
deriving DecidableEq, Repr

/-- What is said of a refusal, where it has a text of its own. -/
def StoreError.message? : StoreError → Option String
  | database => none
  | migration => none
  | invalidId => none
  | timestampOutOfRange t => some s!"Timestamp out of range: {t.toLongText}"
  | invalidCode kind code => some s!"Invalid {kind.label} code: {code}"
  | unknownType name => some s!"Unknown storage type: {name}"
  | io => none
  | unavailable part => some s!"Storage unavailable: {part.refusal}"

end Cascade
