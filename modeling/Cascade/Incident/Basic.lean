import Cascade.IdMap
import Cascade.Signal.Basic

/-!
# Incidents

An incident stands for one critical component that explains others.  It is open until its root is
no longer critical, and then resolved for good.
-/

namespace Cascade

abbrev IncidentId := Uuid

inductive IncidentStatus where
  | ongoing
  | resolved
deriving DecidableEq, Repr, Inhabited

namespace IncidentStatus

def code : IncidentStatus → Int
  | ongoing => 0
  | resolved => 1

def ofCode? (n : Int) : Option IncidentStatus :=
  if n = 0 then some ongoing else if n = 1 then some resolved else none

def name : IncidentStatus → String
  | ongoing => "OPEN"
  | resolved => "RESOLVED"

@[simp] theorem ofCode?_code (s : IncidentStatus) : ofCode? s.code = some s := by cases s <;> rfl

end IncidentStatus

/-- A critical component that explains others, from its start to its end. -/
structure Incident where
  id : IncidentId
  root : ComponentId
  startedAt : Time.Instant
  resolvedAt : Option Time.Instant
  status : IncidentStatus
deriving DecidableEq, Repr, Inhabited

namespace Incident

def begin (id : IncidentId) (root : ComponentId) (now : Time.Instant) : Incident :=
  ⟨id, root, now, none, .ongoing⟩

def resolve (i : Incident) (now : Time.Instant) : Incident :=
  { i with resolvedAt := some now, status := .resolved }

def isOpen (i : Incident) : Bool := i.status = .ongoing

/-- The order in which incidents are listed: by root, start, status (open ones first) and end (those
without one first). -/
def listedBefore (a b : Incident) : Bool :=
  if a.root ≠ b.root then decide (a.root < b.root)
  else if a.startedAt ≠ b.startedAt then decide (a.startedAt ≤ b.startedAt)
  else if a.status ≠ b.status then a.isOpen
  else
    match a.resolvedAt, b.resolvedAt with
    | none, _ => true
    | some _, none => false
    | some x, some y => decide (x ≤ y)

def listed (l : List Incident) : List Incident := l.mergeSort listedBefore

end Incident

/-- The incidents that one look at the components opens and resolves. -/
structure Transition where
  opened : List Incident
  /-- The incidents that are over, as they are at their end. -/
  resolved : List Incident
deriving DecidableEq, Repr, Inhabited

namespace Transition

/-- Nothing opens and nothing ends. -/
def none : Transition := ⟨[], []⟩

def isEmpty (t : Transition) : Bool := t.opened.isEmpty && t.resolved.isEmpty

end Transition

/-- The incidents that are not over, by their roots. -/
abbrev ActiveIncidents := IdMap Incident

end Cascade
