import Cascade.Alert.Publisher
import Cascade.Text.Blank
import Cascade.Time.Written

/-!
# Alerts in a chat

Each alert is one message to a bot service.  A message that the service cannot take now is sent
again, up to three times more, and each alert leaves one record of how its last sending went.  An
alert that fails keeps no other from being sent.  How a message is sent again is left to a `Retry`,
of which `retrying` is the one that runs.
-/

namespace Cascade.Alert.Telegram

/-- Where messages go. -/
structure Config where
  botToken : String
  chatId : String
  apiBase : String
deriving DecidableEq, Repr

def defaultApiBase : String := "https://api.telegram.org"

def timeout : Time.Span := .ofSeconds 10 0

/-- Refuses a bot or a chat without a name. -/
def Config.check (c : Config) : Except AlertError Config :=
  if Text.isBlankText c.botToken ∨ Text.isBlankText c.chatId then
    .error (.configuration "telegram bot_token and chat_id are required")
  else .ok c

def Config.url (c : Config) : String :=
  String.ofList (c.apiBase.toList.reverse.dropWhile (· = '/')).reverse ++ "/bot" ++ c.botToken ++
    "/sendMessage"

/-- What the messages say about the place of the incident. -/
structure Context where
  project : String
  environment : String
  stack : Option String
deriving DecidableEq, Repr

/-! ### Messages -/

/-- Writes messages: the names of the components and the place. -/
structure Writer where
  names : IdMap String
  context : Context

/-- The name of a component, or its id where it has none. -/
def Writer.nameOf (w : Writer) (id : ComponentId) : String := (w.names.get? id).getD id.toText

def Writer.contextLines (w : Writer) : List String :=
  [s!"Project: {w.context.project}", s!"Environment: {w.context.environment}"] ++
    (w.context.stack.map fun s ↦ s!"Stack: {s}").toList

/-- The order of texts by their code points, which is also that of their bytes. -/
def textLe (a b : String) : Bool := !(b < a)

/-- The names of the impacted components below the root of an incident, in text order. -/
def Writer.impacted (w : Writer) (g : Graph) (states : StateMap) (i : Incident) : List String :=
  (((g.allDownstream i.root).filter fun id ↦ states.get? id = some .impacted).map
    w.nameOf).mergeSort textLe

def unlines (lines : List String) : String := "\n".intercalate lines

def Writer.opened (w : Writer) (g : Graph) (states : StateMap) (i : Incident) : String :=
  let impacted := w.impacted g states i
  unlines <| s!"❗ INCIDENT OPEN ({i.id.shortText})" :: w.contextLines ++
    [s!"Component: {w.nameOf i.root}", "Severity: Critical"] ++
    (if impacted.isEmpty then [] else ["Impacted: " ++ ", ".intercalate impacted]) ++
    [s!"Started: {i.startedAt.toText}"]

def Writer.resolved (w : Writer) (i : Incident) (now : Time.Instant) : String :=
  unlines <| s!"✅ INCIDENT RESOLVED ({i.id.shortText})" :: w.contextLines ++
    [s!"Component: {w.nameOf i.root}", s!"Resolved: {now.toText}",
      s!"Duration: {Time.writeDuration (now.secondsSince i.startedAt)}"]

def Writer.message (w : Writer) (a : Announcement) : Incident × AlertKind → String
  | (i, .opened) => w.opened a.graph a.states i
  | (i, .resolved) => w.resolved i a.now

/-! ### Sending -/

/-- How the sending of a message went. -/
inductive Outcome where
  | answered (status : Nat) (body : String)
  /-- There was no answer; `transient` says that there may be one later. -/
  | unanswered (transient : Bool) (reason : String)
deriving DecidableEq, Repr

/-- The most characters of an answer that are kept. -/
def summaryLimit : Nat := 200

/-- An answer in one line, cut where it is long. -/
def summarize (body : String) : String :=
  let line := Text.trimChars (body.toList.map fun c ↦ if c = '\n' then ' ' else c)
  if line.length ≤ summaryLimit then String.ofList line
  else String.ofList (line.take summaryLimit) ++ "..."

/-- Why a sending failed, or nothing if it did not. -/
def Outcome.failure? : Outcome → Option String
  | answered status body =>
    if 200 ≤ status ∧ status < 300 then none
    else some s!"statusCode={status} response={summarize body}"
  | unanswered _ reason => some reason

/-- Whether the message may be taken if it is sent again. -/
def Outcome.isTransient : Outcome → Bool
  | answered status _ => status = 429 || (500 ≤ status && status < 600)
  | unanswered transient _ => transient

def maxRetries : Nat := 3

variable {σ : Type}

/-- A way to make an attempt again: given whether an outcome is worth another attempt and how many
more there may be, it tells how the last attempt went. -/
abbrev Retry (σ : Type) := (σ → Outcome × σ) → (Outcome → Bool) → Nat → σ → Outcome × σ

/-- Goes on as long as it is worth it, and no further than it may. -/
def retrying : Retry σ
  | attempt, _, 0, s => attempt s
  | attempt, worthwhile, n + 1, s =>
    let (o, s) := attempt s
    if worthwhile o then retrying attempt worthwhile n s else (o, s)

/-- Sends the message of one alert and records how it went.  A record that the recorder refuses is
lost. -/
def deliver (retry : Retry σ) (send : String → σ → Outcome × σ) (record : Recorder σ) (w : Writer)
    (a : Announcement) (alert : Incident × AlertKind) (s : σ) : σ :=
  let (o, s) := retry (send (w.message a alert)) Outcome.isTransient maxRetries s
  (record [⟨alert.1.id, alert.2, a.now, .telegram, o.failure?⟩] s).2

/-- Sends every alert of a transition.  It never fails as a whole. -/
def publisherWith (retry : Retry σ) (send : String → σ → Outcome × σ) (record : Recorder σ)
    (w : Writer) : Publisher σ :=
  fun a s ↦
    (none, a.transition.alerts.foldl (fun s alert ↦ deliver retry send record w a alert s) s)

def publisher (send : String → σ → Outcome × σ) (record : Recorder σ) (w : Writer) : Publisher σ :=
  publisherWith retrying send record w

end Cascade.Alert.Telegram
