import Cascade.Text.Blank

/-!
# Health checks

A check asks a service over HTTP how it is.  The answer is healthy if its status, its content type
and its body are as the check wants them.
-/

namespace Cascade.Health

inductive CheckKind where
  | http
deriving DecidableEq, Repr

def CheckKind.name : CheckKind → String
  | http => "http"

structure Check where
  component : String
  kind : CheckKind
  url : String
  /-- How often it asks, in milliseconds. -/
  interval : Nat
  /-- How long it waits for the answer, in milliseconds. -/
  timeout : Nat
  failureThreshold : Nat
  expectedStatus : Nat
  bodyContains : Option String
  contentTypeContains : Option String
deriving DecidableEq, Repr

structure CheckResult where
  healthy : Bool
  details : String
deriving DecidableEq, Repr

/-- What comes back from a request. -/
inductive Reply where
  /-- An answer with its status, its content type (empty where it has none that is text), and its
  body. -/
  | answer (status : Nat) (contentType body : String)
  | timedOut
  | unreachable
  /-- The request could not be made or its answer not be read. -/
  | broken (reason : String)
deriving DecidableEq, Repr

/-- Whether a status is wanted; 200 stands for every status of success. -/
def statusOk (status expected : Nat) : Bool :=
  if expected = 200 then 200 ≤ status && status < 300 else status = expected

def containsWanted (wanted : Option String) (text : String) : Bool :=
  match wanted with
  | none => true
  | some piece => Text.occursIn piece.toList text.toList

/-- What a reply says about a service.  The status is looked at first, then the content type, then
the body. -/
def Check.judge (c : Check) : Reply → CheckResult
  | .timedOut => ⟨false, "timeout"⟩
  | .unreachable => ⟨false, "connect error"⟩
  | .broken reason => ⟨false, s!"request error: {reason}"⟩
  | .answer status contentType body =>
    if !statusOk status c.expectedStatus then ⟨false, s!"status={status}"⟩
    else if !containsWanted c.contentTypeContains contentType then
      ⟨false, s!"content-type={contentType}"⟩
    else if !containsWanted c.bodyContains body then ⟨false, "body mismatch"⟩
    else ⟨true, s!"status={status}"⟩

end Cascade.Health
