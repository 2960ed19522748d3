import Cascade.Text.Blank

/-!
# Severities

How bad a signal is.  A severity has a stable number, under which it is stored, and a name, which
is read in any case and with blanks around it.
-/

namespace Cascade

inductive Severity where
  | info
  | warning
  | critical
deriving DecidableEq, Repr, Inhabited

namespace Severity

def code : Severity → Int
  | info => 0
  | warning => 1
  | critical => 2

def ofCode? (n : Int) : Option Severity :=
  if n = 0 then some info else if n = 1 then some warning else if n = 2 then some critical else none

def name : Severity → String
  | info => "INFO"
  | warning => "WARNING"
  | critical => "CRITICAL"

instance : ToString Severity := ⟨name⟩

def normalName (s : String) : String := Text.upper (Text.trim s)

/-- The severity of a name; where it is unknown, the form in which it was compared. -/
def ofName (s : String) : Except String Severity :=
  let n := normalName s
  if n = "INFO" then .ok info
  else if n = "WARNING" then .ok warning
  else if n = "CRITICAL" then .ok critical
  else .error n

def unknownMessage (normal : String) : String := "unknown severity: " ++ normal

@[simp] theorem ofCode?_code (s : Severity) : ofCode? s.code = some s := by cases s <;> rfl

end Severity

end Cascade
