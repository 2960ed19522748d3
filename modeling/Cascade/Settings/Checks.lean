import Cascade.Health.Check
import Cascade.Settings.Topology

/-!
# The checks of settings

A check must be of a declared component and of a known kind, and must rest between two rounds.  One
failure is the least that can be critical.
-/

namespace Cascade.Settings

def checkKind (raw : String) : Except SettingsError Health.CheckKind :=
  if Text.lower (Text.trim raw) = Health.CheckKind.http.name then .ok .http
  else .error (.unsupportedCheck raw)

/-- The check of an entry.  Faults are looked for in the component, the kind, the rest between two
rounds and the wait for an answer, in this order. -/
def CheckEntry.resolve (roster : Ingestion.Roster) (c : CheckEntry) :
    Except SettingsError Health.Check := do
  let _ ← lookUp roster .check c.component
  let kind ← checkKind c.kind
  let interval ← readDuration c.interval
  if interval = 0 then .error (.zeroInterval c.component)
  let timeout ← readDuration c.timeout
  return {
    component := Text.trim c.component
    kind, interval, timeout
    url := c.url
    failureThreshold := max c.failureThreshold 1
    expectedStatus := c.expectedStatus
    bodyContains := c.bodyContains
    contentTypeContains := c.contentTypeContains }

def resolveChecks (t : Topology) (s : Settings) : Except SettingsError (List Health.Check) :=
  s.checks.mapM (CheckEntry.resolve t.roster)

end Cascade.Settings
