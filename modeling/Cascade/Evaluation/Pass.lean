import Cascade.Incident.Detection
import Cascade.State.Evaluation
import Cascade.Store.Access

/-!
# Evaluation passes

A pass looks at the marked components, works out the states of all, and opens and ends incidents.
Incidents are written before states: if the states cannot be written, the next pass finds the
incident active and opens no second one.
-/

namespace Cascade.Evaluation

open Store

structure Report where
  /-- The marked components' states by their own signals. -/
  isolated : StateMap
  effective : StateMap
  /-- The critical components that need nothing critical. -/
  rootCauses : List ComponentId
  transition : Transition
deriving Inhabited

inductive PassError where
  | store (cause : StoreError)
  | missingThreshold (id : ComponentId)
  /-- A window begins before the calendar does. -/
  | beyondCalendar
deriving DecidableEq, Repr

/-- What is said of a pass that ends early, where it has a text of its own. -/
def PassError.message? : PassError → Option String
  | store cause => cause.message?.map fun m ↦ s!"Storage error: {m}"
  | missingThreshold id => some s!"Threshold config missing for component: {id.toText}"
  | beyondCalendar => none

/-- The thresholds of components. -/
structure Thresholds where
  own : IdMap Threshold
  /-- That of every other component. -/
  fallback : Option Threshold
deriving Inhabited

def Thresholds.get? (t : Thresholds) (id : ComponentId) : Option Threshold :=
  (t.own.get? id).or t.fallback

/-- What passes work with: the components and their thresholds. -/
structure Setup where
  graph : Graph
  thresholds : Thresholds
deriving Inhabited

/-- The states with every component of the graph in them. -/
def withDefaults (g : Graph) (states : StateMap) : StateMap :=
  g.components.foldl (fun m id ↦ if m.contains id then m else m.insert id .unknown) states

variable {σ : Type}

def ofStore {α : Type} : Except StoreError α → Except PassError α
  | .ok a => .ok a
  | .error e => .error (.store e)

/-- The state of a marked component by its own signals.  Nothing is said of a component outside the
graph. -/
def look (a : Access σ) (setup : Setup) (previous : StateMap) (now : Time.Instant) (s : σ)
    (id : ComponentId) : Except PassError (Option ComponentState) :=
  if id ∈ setup.graph then do
    let signals ← ofStore (a.find id s)
    match setup.thresholds.get? id with
    | none => .error (.missingThreshold id)
    | some threshold =>
      match State.evaluate signals (previous.stateOf id) threshold now with
      | none => .error .beyondCalendar
      | some state => .ok (some state)
  else .ok none

/-- The states of marked components by their own signals, looked at in turn. -/
def lookAll (a : Access σ) (setup : Setup) (previous : StateMap) (now : Time.Instant) (s : σ) :
    List ComponentId → StateMap → Except PassError StateMap
  | [], found => .ok found
  | id :: rest, found => do
    match ← look a setup previous now s id with
    | none => lookAll a setup previous now s rest found
    | some state => lookAll a setup previous now s rest (found.insert id state)

/-- What a pass works out before it writes anything. -/
def plan (a : Access σ) (setup : Setup) (fresh : ComponentId → IncidentId) (dirty : IdSet)
    (now : Time.Instant) (s : σ) : Except PassError Report := do
  let stored ← ofStore (a.loadStates s)
  let previous := withDefaults setup.graph stored
  let active ← ofStore (a.loadActive s)
  let isolated ← lookAll a setup previous now s dirty.keys ∅
  let effective := State.propagate setup.graph (previous.override isolated)
  return {
    isolated, effective
    rootCauses := State.rootCauses setup.graph effective
    transition := Incident.detect fresh setup.graph previous effective active now }

/-- Writes what a pass found out: incidents and then states.  A store that refuses the states keeps
the incidents. -/
def commit (a : Access σ) (r : Report) (s : σ) : Except PassError Unit × σ :=
  match a.saveTransition r.transition s with
  | .error e => (.error (.store e), s)
  | .ok s =>
    match a.saveStates r.effective s with
    | .error e => (.error (.store e), s)
    | .ok s => (.ok (), s)

/-- A pass over the marked components; `fresh` gives the id of the incident that a component
opens. -/
def run (a : Access σ) (setup : Setup) (fresh : ComponentId → IncidentId) (dirty : IdSet)
    (now : Time.Instant) (s : σ) : Except PassError Report × σ :=
  match plan a setup fresh dirty now s with
  | .error e => (.error e, s)
  | .ok r =>
    match commit a r s with
    | (.error e, s) => (.error e, s)
    | (.ok (), s) => (.ok r, s)

end Cascade.Evaluation
