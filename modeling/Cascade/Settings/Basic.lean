import Cascade.Alert.Telegram
import Cascade.NameMap

/-!
# Settings

What a deployment is told: which components there are and what they need, how many signals are too
many, how often to look, and where to listen, to keep things and to send alerts.  Durations are
kept as they are written.
-/

namespace Cascade.Settings

/-- The spans of evaluation, as they are written. -/
structure Pace where
  window : String
  /-- The span of quiet after which a component has recovered. -/
  recoveryWindow : String
  debounce : String
  idlePoll : String
deriving DecidableEq, Repr

/-- Where signals are taken in. -/
structure Listener where
  host : String
  port : Nat
deriving DecidableEq, Repr

def Listener.address (l : Listener) : String := s!"{l.host}:{l.port}"

structure Storage where
  kind : String
  path : String
deriving DecidableEq, Repr

/-- Marks that are shared with other programs. -/
structure SharedMarks where
  enabled : Bool
  uri : String
  keyPrefix : Option String
deriving DecidableEq, Repr

structure Chat where
  enabled : Bool
  botToken : String
  chatId : String
  apiBase : Option String
deriving DecidableEq, Repr

/-- A dependency by the names of its ends. -/
structure Dependency where
  upstream : String
  downstream : String
deriving DecidableEq, Repr

/-- How many signals are too many. -/
structure Limits where
  critical : Nat
  degraded : Nat
deriving DecidableEq, Repr, Inhabited

/-- A health check, as it is written. -/
structure CheckEntry where
  component : String
  kind : String
  url : String
  interval : String
  timeout : String
  failureThreshold : Nat
  expectedStatus : Nat
  bodyContains : Option String
  contentTypeContains : Option String
deriving DecidableEq, Repr

end Settings

structure Settings where
  context : Alert.Telegram.Context
  evaluation : Settings.Pace
  queueCapacity : Nat
  listener : Settings.Listener
  storage : Settings.Storage
  sharedMarks : Settings.SharedMarks
  chat : Settings.Chat
  components : List String
  dependencies : List Settings.Dependency
  limits : NameMap Settings.Limits
  checks : List Settings.CheckEntry

namespace Settings

/-- The settings where nothing is said. -/
def standard : Settings where
  context := ⟨"dozor", "local", none⟩
  evaluation := ⟨"5m", "2m", "500ms", "250ms"⟩
  queueCapacity := 1024
  listener := ⟨"0.0.0.0", 8080⟩
  storage := ⟨"sqlite", "data/dozor.db"⟩
  sharedMarks := ⟨false, "redis://localhost:6379", none⟩
  chat := ⟨false, "", "", none⟩
  components := []
  dependencies := []
  limits := ∅
  checks := []

/-- As many failures in a row are critical where a check does not say. -/
def standardFailureThreshold : Nat := 1

/-- The status that an answer must have where a check does not say. -/
def standardStatus : Nat := 200

end Settings

end Cascade
