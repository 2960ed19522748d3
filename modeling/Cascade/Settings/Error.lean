import Cascade.Graph.Topology
import Cascade.State.Threshold

/-!
# What can be wrong with settings
-/

namespace Cascade.Settings

/-- Where a name is mentioned. -/
inductive Mention where
  | upstream
  | downstream
  | limits
  | check
deriving DecidableEq, Repr

def Mention.label : Mention → String
  | upstream => "dependency upstream"
  | downstream => "dependency downstream"
  | limits => "thresholds"
  | check => "checks"

inductive SettingsError where
  | unreadable
  | notLoaded
  | invalidDuration (raw : String)
  | zeroIdlePoll
  | blankName
  | duplicateComponent (name : String)
  | unknownComponent (mention : Mention) (name : String)
  | missingLimits (name : String)
  | threshold (name : String) (cause : ThresholdError)
  | graph (cause : GraphError)
  | unsupportedCheck (kind : String)
  | zeroInterval (component : String)
deriving DecidableEq, Repr

/-- What is said of settings that are refused, where there is a text of its own. -/
def SettingsError.message? : SettingsError → Option String
  | unreadable => none
  | notLoaded => none
  | invalidDuration raw => some s!"Unsupported duration format: {raw}"
  | zeroIdlePoll => some "Invalid value for evaluation.idle_poll: must be > 0"
  | blankName => some "Invalid value for components.name: must not be blank"
  | duplicateComponent name => some s!"Duplicate component: {name}"
  | unknownComponent mention name =>
    some s!"Unknown component '{name}' referenced by {mention.label}"
  | missingLimits name => some s!"Threshold config missing for component: {name}"
  | threshold name cause => some s!"Invalid threshold for component {name}: {cause.message}"
  | graph cause => some s!"Invalid dependency graph: {cause.message}"
  | unsupportedCheck kind => some s!"Unsupported check type: {kind}"
  | zeroInterval component =>
    some s!"Invalid value for checks.interval: must be > 0 for {component}"

end Cascade.Settings
