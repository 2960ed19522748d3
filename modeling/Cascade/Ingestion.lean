import Cascade.Site

/-!
# Taking signals in

A signal names its component.  It is refused if the component is not known or if the queue of
wake-ups is full, before anything is written.  Then the component is marked, the signal is
appended, and the worker is woken, in this order.
-/

namespace Cascade.Ingestion

open Store

/-- A signal as it is handed in. -/
structure Submission where
  component : String
  severity : Severity
  occurredAt : Time.Instant
  source : String
  key : Option String
deriving DecidableEq, Repr

/-- What becomes of a signal that is handed in. -/
inductive Admission where
  | accepted
  | duplicate
  | unknownComponent
  | backpressure
deriving DecidableEq, Repr

def Admission.name : Admission → String
  | accepted => "accepted"
  | duplicate => "duplicate"
  | unknownComponent => "unknown_component"
  | backpressure => "backpressure"

inductive IngestError where
  | mark (cause : Worker.LoopError)
  | append (cause : StoreError)
deriving DecidableEq, Repr

/-- What is said of a signal that could not be kept, where it has a text of its own. -/
def IngestError.message? : IngestError → Option String
  | mark cause => cause.message?.map fun m ↦ s!"Runtime error: {m}"
  | append cause => cause.message?.map fun m ↦ s!"Storage error: {m}"

abbrev Roster := List String

def Roster.idOf? (r : Roster) (name : String) : Option ComponentId :=
  if name ∈ (r : List String) then some (ComponentId.ofName name) else none

def Submission.record (s : Submission) (id : ComponentId) (now : Time.Instant) : SignalRecord :=
  ⟨id, ⟨s.severity, s.occurredAt⟩, s.source, now, s.key⟩

/-- The last steps for a signal that is kept: it is indexed and the worker is woken. -/
def settle (s : Submission) (id : ComponentId) (site : Site) : Site :=
  let site := { site with buckets := site.buckets.addIfOpen id ⟨s.severity, s.occurredAt⟩ }
  (site.wake id).2

/-- The steps behind the checks: mark, append, and wake. -/
def keep (s : Submission) (id : ComponentId) (now : Time.Instant) (site : Site) :
    Except IngestError Admission × Site :=
  match site.mark id with
  | .error e => (.error (.mark (.mark e)), site)
  | .ok site =>
    match site.append (s.record id now) with
    | .error e => (.error (.append e), site)
    | .ok (.duplicate, site) => (.ok .duplicate, site)
    | .ok (.inserted, site) => (.ok .accepted, settle s id site)

def ingest (r : Roster) (now : Time.Instant) (s : Submission) (site : Site) :
    Except IngestError Admission × Site :=
  match r.idOf? s.component with
  | none => (.ok .unknownComponent, site)
  | some id =>
    if site.queue.canAccept then keep s id now site else (.ok .backpressure, site)

end Cascade.Ingestion
