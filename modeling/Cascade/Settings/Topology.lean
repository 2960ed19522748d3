import Cascade.Evaluation.Pass
import Cascade.Ingestion
import Cascade.Settings.Basic
import Cascade.Settings.Duration
import Cascade.Settings.Error

/-!
# What settings come to

Settings are resolved before anything starts: durations are read, names are looked up, the graph is
built, and every component gets its threshold.  The first fault refuses the whole.
-/

namespace Cascade.Settings

def readDuration (raw : String) : Except SettingsError Nat :=
  match durationMillis? raw with
  | some n => .ok n
  | none => .error (.invalidDuration raw)

/-- The spans of evaluation in milliseconds. -/
structure Spans where
  window : Nat
  recoveryWindow : Nat
  debounce : Nat
  idlePoll : Nat
deriving DecidableEq, Repr

/-- The spans of evaluation.  The wait for a wake-up is looked at first, and must not be zero. -/
def Pace.resolve (p : Pace) : Except SettingsError Spans := do
  let idlePoll ← readDuration p.idlePoll
  if idlePoll = 0 then .error .zeroIdlePoll
  let window ← readDuration p.window
  let recoveryWindow ← readDuration p.recoveryWindow
  let debounce ← readDuration p.debounce
  return ⟨window, recoveryWindow, debounce, idlePoll⟩

/-- The names of declared components, without the blanks around them.  `seen` are those declared
before. -/
def declare (seen : List String) : List String → Except SettingsError (List String)
  | [] => .ok []
  | declared :: rest => do
    let name := Text.trim declared
    if name.isEmpty then .error .blankName
    if name ∈ seen then .error (.duplicateComponent name)
    let names ← declare (name :: seen) rest
    return name :: names

/-- The component that a name stands for, blanks around it aside. -/
def lookUp (roster : Ingestion.Roster) (mention : Mention) (name : String) :
    Except SettingsError ComponentId :=
  match roster.idOf? (Text.trim name) with
  | some id => .ok id
  | none => .error (.unknownComponent mention name)

def resolveDependency (roster : Ingestion.Roster) (d : Dependency) : Except SettingsError Edge := do
  let upstream ← lookUp roster .upstream d.upstream
  let downstream ← lookUp roster .downstream d.downstream
  return ⟨upstream, downstream⟩

/-- The limits of a component: those under its own name, or else the first under a name that differs
from it in the case of letters only. -/
def limitsOf (limits : NameMap Limits) (name : String) : Option Limits :=
  (limits.get? name).or ((limits.entries.find? fun e ↦ Text.sameLetters e.1 name).map (·.2))

def thresholdOf (limits : NameMap Limits) (spans : Spans) (name : String) :
    Except SettingsError Threshold :=
  match limitsOf limits name with
  | none => .error (.missingLimits name)
  | some l =>
    match Threshold.make l.critical l.degraded (.ofMillis spans.window)
        (.ofMillis spans.recoveryWindow) with
    | .ok t => .ok t
    | .error e => .error (.threshold name e)

end Settings

/-- What settings come to: components with what they need and their thresholds. -/
structure Topology where
  /-- The names of the components, in the order of their declaration. -/
  roster : Ingestion.Roster
  edges : List Edge
  graph : Graph
  thresholds : IdMap Threshold

namespace Topology

open Settings

/-- The topology of settings.  Faults are looked for in the spans, the components, the dependencies,
the names of the limits, the thresholds and the graph, in this order. -/
def resolve (s : Settings) : Except SettingsError Topology := do
  let spans ← s.evaluation.resolve
  let roster ← declare [] s.components
  let edges ← s.dependencies.mapM (resolveDependency roster)
  let _ ← s.limits.names.mapM (lookUp roster .limits)
  let thresholds ← roster.mapM fun name ↦
    (thresholdOf s.limits spans name).map fun t ↦ (ComponentId.ofName name, t)
  match Graph.build (roster.map ComponentId.ofName) edges with
  | .error e => .error (.graph e)
  | .ok graph => .ok ⟨roster, edges, graph, .ofList thresholds⟩

def setup (t : Topology) : Evaluation.Setup := ⟨t.graph, t.thresholds, none⟩

end Topology

end Cascade
