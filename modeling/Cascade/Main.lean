import Cascade.Deployment.Schedule
import Cascade.Settings.Layers
import Cascade.Store.Opening
import Std.Time.DateTime.Timestamp

/-!
# The command line

Loads settings from the files and variables that name them, sets up what they ask for, and takes in
one signal a line from the standard input: each line is the body of a request and is answered by
the status and the body of the response.  Durable tables last as long as the program runs.
-/

namespace Cascade.CommandLine

open Settings

def contentOf (name : String) : IO (Option String) := do
  try return some (← IO.FS.readFile name)
  catch _ => return none

def environment : IO (List (String × String)) := do
  let content := (← contentOf "/proc/self/environ").getD ""
  return (content.splitOn "\x00").filterMap fun entry ↦
    match entry.splitOn "=" with
    | name :: value@(_ :: _) => some (name, "=".intercalate value)
    | _ => none

def surroundings (path : Option String) : IO Layers.Surroundings := do
  let bare : Layers.Surroundings := ⟨fun _ ↦ none, ← environment⟩
  let files ← (bare.wanted path).mapM fun name ↦ return (← contentOf name).map ((name, ·))
  return { bare with read? := fun name ↦ (files.filterMap id).lookup name }

def clockNanos : IO Int := do return (← Std.Time.Timestamp.now).toNanosecondsSinceUnixEpoch.val

/-- What a deployment cannot know by itself, from the moment of its start on.  There is nobody to
ask how components are, so every check finds them well. -/
def outsideAt (nanos : Int) : Outside where
  clock := .standingAt (.ofNanos nanos)
  fresh pass root := Uuid.named ComponentId.namespaceId s!"{nanos}/{pass}/{root.toText}"
  isWell _ _ := true
  channels := []

def refusal : DeploymentError → String
  | .settings e => e.message?.getD "Failed to load configuration"
  | .store e => e.message?.getD "Failed to open storage"
  | .worker e => e.message?.getD "Failed to set up the worker"

def deploy (s : Settings) (outside : Outside) : Except DeploymentError Deployment := do
  let t ← (Topology.resolve s).mapError .settings
  let (store, _) := (default : Store.Directory).openStore s.storage.kind s.storage.path
    (t.roster.map fun name ↦ (.ofName name, name)) (t.edges.map fun e ↦ (e.upstream, e.downstream))
  Deployment.setUp s (← store.mapError .store) outside

def requestOf (line : String) : Http.Request :=
  ⟨"POST", "/signal", [("content-type", Json.Value.bytesOf "application/json")],
    Json.Value.bytesOf line⟩

/-- Answers line after line. -/
partial def serve (input output : IO.FS.Stream) (start : Nat) (d : Deployment) : IO Unit := do
  let line ← input.getLine
  if line.isEmpty then return
  let d := d.advanceTo ((← IO.monoMsNow) - start)
  let (response, d) := d.respond (requestOf line)
  let body := (Json.Value.textOf? response.body).getD ""
  output.putStrLn s!"{response.status} {body}"
  output.flush
  serve input output start d.settle

/-- Loads settings and serves what they ask for. -/
def run (path : Option String) : IO UInt32 := do
  let settings : Except DeploymentError Settings :=
    match Layers.load? (← surroundings path) path with
    | none => .error (.settings .notLoaded)
    | some s => .ok s
  let outside := outsideAt (← clockNanos)
  match settings.bind fun s ↦ deploy s outside with
  | .error e =>
    (← IO.getStderr).putStrLn (refusal e)
    return 1
  | .ok d =>
    serve (← IO.getStdin) (← IO.getStdout) (← IO.monoMsNow) d.start.2.settle
    return 0

end Cascade.CommandLine

/-- Takes the name of a file of settings, or none. -/
def main (arguments : List String) : IO UInt32 := Cascade.CommandLine.run arguments.head?
