import Cascade.Settings.Basic
import Cascade.Settings.Duration

/-!
# Settings in a document

What a document says about settings is read in the same way whatever kind of document it is; the
kind only decides what counts as a text, a number, a list and so on.  What is not said has its
standard value, and a part that is no such thing spoils the whole.
-/

namespace Cascade.Settings

/-- What the parts of a kind of document can be read as. -/
class Document (D : Type) where
  text? : D → Option String
  optText? : D → Option (Option String)
  /-- A whole number up to a greatest one. -/
  nat? : Nat → D → Option Nat
  bool? : D → Option Bool
  items? : D → Option (List D)
  /-- Those of the named parts that there are. -/
  record? : List String → D → Option (List (String × D))
  /-- Parts under any names. -/
  table? : D → Option (List (String × D))

open Document

variable {D : Type} {α : Type}

/-- A part that has a value of its own where nothing is said. -/
def partOr (parts : List (String × D)) (name : String) (standard : α) (read : D → Option α) :
    Option α :=
  match parts.lookup name with
  | none => some standard
  | some d => read d

def part (parts : List (String × D)) (name : String) (read : D → Option α) : Option α :=
  (parts.lookup name).bind read

def max16 : Nat := 65535

def max32 : Nat := 4294967295

variable [Document D]

def readItems (read : D → Option α) (d : D) : Option (List α) := (items? d).bind (·.mapM read)

def readContext (s : Alert.Telegram.Context) (d : D) : Option Alert.Telegram.Context := do
  let ps ← record? ["project", "environment", "stack"] d
  return ⟨← partOr ps "project" s.project text?, ← partOr ps "environment" s.environment text?,
    ← partOr ps "stack" s.stack optText?⟩

def readPace (s : Pace) (d : D) : Option Pace := do
  let ps ← record? ["window", "recovery_window", "debounce", "idle_poll"] d
  return ⟨← partOr ps "window" s.window text?,
    ← partOr ps "recovery_window" s.recoveryWindow text?, ← partOr ps "debounce" s.debounce text?,
    ← partOr ps "idle_poll" s.idlePoll text?⟩

def readCapacity (s : Nat) (d : D) : Option Nat := do
  let ps ← record? ["queue_capacity"] d
  partOr ps "queue_capacity" s (nat? Text.wordMax)

def readListener (s : Listener) (d : D) : Option Listener := do
  let ps ← record? ["host", "port"] d
  return ⟨← partOr ps "host" s.host text?, ← partOr ps "port" s.port (nat? max16)⟩

def readStorage (s : Storage) (d : D) : Option Storage := do
  let ps ← record? ["type", "path"] d
  return ⟨← partOr ps "type" s.kind text?, ← partOr ps "path" s.path text?⟩

def readSharedMarks (s : SharedMarks) (d : D) : Option SharedMarks := do
  let ps ← record? ["enabled", "uri", "key_prefix"] d
  return ⟨← partOr ps "enabled" s.enabled bool?, ← partOr ps "uri" s.uri text?,
    ← partOr ps "key_prefix" s.keyPrefix optText?⟩

def readChat (s : Chat) (d : D) : Option Chat := do
  let ps ← record? ["enabled", "bot_token", "chat_id", "api_base"] d
  return ⟨← partOr ps "enabled" s.enabled bool?, ← partOr ps "bot_token" s.botToken text?,
    ← partOr ps "chat_id" s.chatId text?, ← partOr ps "api_base" s.apiBase optText?⟩

def readComponent (d : D) : Option String := do
  let ps ← record? ["name"] d
  part ps "name" text?

def readDependency (d : D) : Option Dependency := do
  let ps ← record? ["upstream", "downstream"] d
  return ⟨← part ps "upstream" text?, ← part ps "downstream" text?⟩

def readLimits (d : D) : Option Limits := do
  let ps ← record? ["critical", "degraded"] d
  return ⟨← part ps "critical" (nat? max32), ← part ps "degraded" (nat? max32)⟩

/-- Reads how many signals are too many, component by component.  The last word on a component
counts. -/
def readLimitsTable (d : D) : Option (NameMap Limits) := do
  let entries ← (← table? d).mapM fun e ↦ (readLimits e.2).map fun l ↦ (e.1, l)
  return .ofList entries

def readCheck (d : D) : Option CheckEntry := do
  let ps ← record? ["component", "type", "url", "interval", "timeout", "failure_threshold",
    "expected_status", "body_contains", "content_type_contains"] d
  return {
    component := ← part ps "component" text?
    kind := ← part ps "type" text?
    url := ← part ps "url" text?
    interval := ← part ps "interval" text?
    timeout := ← part ps "timeout" text?
    failureThreshold := ← partOr ps "failure_threshold" standardFailureThreshold (nat? max32)
    expectedStatus := ← partOr ps "expected_status" standardStatus (nat? max16)
    bodyContains := ← partOr ps "body_contains" none optText?
    contentTypeContains := ← partOr ps "content_type_contains" none optText? }

def ofDocument? (d : D) : Option Settings := do
  let s := standard
  let ps ← record? ["context", "evaluation", "runtime", "api", "storage", "redis", "telegram",
    "components", "dependencies", "thresholds", "checks"] d
  return {
    context := ← partOr ps "context" s.context (readContext s.context)
    evaluation := ← partOr ps "evaluation" s.evaluation (readPace s.evaluation)
    queueCapacity := ← partOr ps "runtime" s.queueCapacity (readCapacity s.queueCapacity)
    listener := ← partOr ps "api" s.listener (readListener s.listener)
    storage := ← partOr ps "storage" s.storage (readStorage s.storage)
    sharedMarks := ← partOr ps "redis" s.sharedMarks (readSharedMarks s.sharedMarks)
    chat := ← partOr ps "telegram" s.chat (readChat s.chat)
    components := ← partOr ps "components" s.components (readItems readComponent)
    dependencies := ← partOr ps "dependencies" s.dependencies (readItems readDependency)
    limits := ← partOr ps "thresholds" s.limits readLimitsTable
    checks := ← partOr ps "checks" s.checks (readItems readCheck) }

end Cascade.Settings
