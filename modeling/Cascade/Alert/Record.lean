import Cascade.Incident.Basic

/-!
# Alerts and the record of their delivery

An alert announces that an incident opened or ended.  Each delivery leaves a record, which holds
the reason where the delivery failed.
-/

namespace Cascade

inductive AlertKind where
  | opened
  | resolved
deriving DecidableEq, Repr, Inhabited

namespace AlertKind

def code : AlertKind → Int
  | opened => 0
  | resolved => 1

def name : AlertKind → String
  | opened => "OPEN"
  | resolved => "RESOLVED"

end AlertKind

inductive AlertChannel where
  | internal
  | telegram
deriving DecidableEq, Repr, Inhabited

def AlertChannel.name : AlertChannel → String
  | internal => "internal"
  | telegram => "telegram"

inductive DeliveryStatus where
  | sent
  | failed
deriving DecidableEq, Repr

namespace DeliveryStatus

def code : DeliveryStatus → Int
  | sent => 0
  | failed => 1

def name : DeliveryStatus → String
  | sent => "sent"
  | failed => "failed"

end DeliveryStatus

structure AlertRecord where
  incident : IncidentId
  kind : AlertKind
  sentAt : Time.Instant
  channel : AlertChannel
  failure : Option String
deriving DecidableEq, Repr, Inhabited

def AlertRecord.status (r : AlertRecord) : DeliveryStatus :=
  if r.failure.isSome then .failed else .sent

/-- The alerts of a transition in the order in which they are announced: what opened, then what
ended. -/
def Transition.alerts (t : Transition) : List (Incident × AlertKind) :=
  t.opened.map (·, .opened) ++ t.resolved.map (·, .resolved)

def AlertRecord.internal (now : Time.Instant) (a : Incident × AlertKind) : AlertRecord :=
  ⟨a.1.id, a.2, now, .internal, none⟩

end Cascade
