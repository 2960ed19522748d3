import Cascade.Decimal.Written
import Cascade.Http.MediaType
import Cascade.Http.Message
import Cascade.Ingestion
import Cascade.Json.Printer
import Cascade.Json.Reader
import Cascade.Time.Rfc3339

/-!
# The service that takes signals in

`GET /health` tells that the service is up, and `POST /signal` hands in a signal.  A request that is
refused says why: its body is no JSON of the right shape, a field of it is not valid, or the signal
is not taken.
-/

namespace Cascade.Http

open Json

/-! ### Requests -/

/-- A signal as a request hands it in. -/
structure SignalRequest where
  component : String
  severity : String
  source : String
  occurredAt : String
  key : Option String
deriving DecidableEq, Repr

def membersOf (members : List (List UInt8 × Value)) (key : String) : List Value :=
  (members.filter fun m ↦ m.1 = Value.bytesOf key).map (·.2)

/-- The text of a member that stands exactly once. -/
def theText? (members : List (List UInt8 × Value)) (key : String) : Option String :=
  match membersOf members key with
  | [v] => v.text?
  | _ => none

def nullableText? : Value → Option (Option String)
  | .null => some none
  | v => v.text?.map some

/-- The text of a member that stands at most once and may be null. -/
def optionalText? (members : List (List UInt8 × Value)) (key : String) : Option (Option String) :=
  match membersOf members key with
  | [] => some none
  | [v] => nullableText? v
  | _ => none

/-- The request of a JSON value: an object in which other members are passed over, or the fields in
a list. -/
def SignalRequest.ofValue? : Value → Option SignalRequest
  | .obj members => do
    if members.any fun m ↦ (Value.textOf? m.1).isNone then none
    let component ← theText? members "component"
    let severity ← theText? members "severity"
    let source ← theText? members "source"
    let occurredAt ← theText? members "occurredAt"
    let key ← optionalText? members "idempotencyKey"
    return ⟨component, severity, source, occurredAt, key⟩
  | .arr [component, severity, source, occurredAt] => do
    return ⟨← component.text?, ← severity.text?, ← source.text?, ← occurredAt.text?, none⟩
  | .arr [component, severity, source, occurredAt, key] => do
    return ⟨← component.text?, ← severity.text?, ← source.text?, ← occurredAt.text?,
      ← nullableText? key⟩
  | _ => none

def Request.isJson (r : Request) : Bool :=
  match (r.header? "content-type").bind MediaType.ofText? with
  | none => false
  | some m => m.isJson

/-- The signal that a request hands in, if its body is JSON of the right shape. -/
def Request.signal? (r : Request) : Option SignalRequest :=
  if r.isJson then (Value.ofBytes? r.body).bind SignalRequest.ofValue? else none

/-- The fields of a signal that may not be valid. -/
inductive FieldError where
  | component
  | source
  | severity
  | occurredAt
deriving DecidableEq, Repr

def FieldError.message : FieldError → String
  | component => "component must be non-empty"
  | source => "source must be non-empty"
  | severity => "severity must be INFO, WARNING, or CRITICAL"
  | occurredAt => "occurredAt must be ISO-8601 instant"

def nonBlank (key : Option String) : Option String := key.filter fun k ↦ !Text.isBlankText k

def keyHeader : String := "idempotency-key"

/-- The signal to take in; the fields are looked at in a fixed order.  The key of the header goes
before that of the body. -/
def SignalRequest.validate (s : SignalRequest) (headerKey : Option String) :
    Except FieldError Ingestion.Submission :=
  if Text.isBlankText s.component then .error .component
  else if Text.isBlankText s.source then .error .source
  else
    match Severity.ofName s.severity with
    | .error _ => .error .severity
    | .ok severity =>
      match Time.Rfc3339.ofText? (Text.trim s.occurredAt) with
      | none => .error .occurredAt
      | some occurredAt =>
        .ok ⟨Text.trim s.component, severity, occurredAt, Text.trim s.source,
          (nonBlank headerKey).or (nonBlank s.key)⟩

/-! ### Responses -/

def jsonResponse (status : Nat) (v : Value) : Response :=
  ⟨status, some "application/json", none, write v⟩

def emptyResponse (status : Nat) (allow : Option String) : Response := ⟨status, none, allow, []⟩

def refusal (status : Nat) (code message : String) (details : Option String) : Response :=
  jsonResponse status (.object ([("code", .text code), ("message", .text message)] ++
    (details.map fun d ↦ ("details", .text d)).toList))

def malformed : Response := refusal 400 "invalid_json" "Request body must be valid JSON" none

/-- The response to what became of a signal, with how full the queue is now. -/
def admitted (a : Ingestion.Admission) (utilization : Decimal.Binary64) : Response :=
  let kept (status : Nat) := jsonResponse status
    (.object [("status", .text a.name), ("queueUtilization", .num utilization.toJson)])
  match a with
  | .accepted => kept 202
  | .duplicate => kept 200
  | .unknownComponent => refusal 404 "unknown_component" "component is not registered" none
  | .backpressure =>
    refusal 429 "backpressure" "ingestion queue is full"
      (some s!"queueUtilization={utilization.toFixed 3}")

def takeSignal (roster : Ingestion.Roster) (now : Time.Instant) (r : Request) (s : SignalRequest)
    (site : Site) : Response × Site :=
  match s.validate (r.header? keyHeader) with
  | .error e => (refusal 400 "validation_error" e.message none, site)
  | .ok submission =>
    match Ingestion.ingest roster now submission site with
    | (.ok a, site) => (admitted a site.queue.utilization, site)
    | (.error _, site) =>
      (refusal 500 "internal_error" "signal could not be recorded" none, site)

def postSignal (roster : Ingestion.Roster) (now : Time.Instant) (r : Request) (site : Site) :
    Response × Site :=
  match r.signal? with
  | none => (malformed, site)
  | some s => takeSignal roster now r s site

def healthy : Response := jsonResponse 200 (.object [("status", .text "ok")])

def respond (roster : Ingestion.Roster) (now : Time.Instant) (r : Request) (site : Site) :
    Response × Site :=
  if r.path = "/health" then
    if r.method = "GET" then (healthy, site)
    else if r.method = "HEAD" then ({ healthy with body := [] }, site)
    else (emptyResponse 405 (some "GET,HEAD"), site)
  else if r.path = "/signal" then
    if r.method = "POST" then postSignal roster now r site
    else (emptyResponse 405 (some "POST"), site)
  else (emptyResponse 404 none, site)

end Cascade.Http
