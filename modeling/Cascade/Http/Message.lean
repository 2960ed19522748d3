import Cascade.Text.Blank

/-!
# Requests and responses

Header names are compared without regard to case, and only the first header of a name counts.  A
header value is text only if it consists of visible ASCII characters, blanks and tabs.
-/

namespace Cascade.Http

structure Request where
  method : String
  /-- What is asked for: a path, or a whole address, with what follows it. -/
  target : String
  headers : List (String × List UInt8)
  body : List UInt8
deriving DecidableEq, Repr, Inhabited

def isSchemeChar (c : Char) : Bool := c.isAlphanum || c = '+' || c = '-' || c = '.'

def endsPath (c : Char) : Bool := c = '?' || c = '#'

/-- What follows the host of an address, which begins with a scheme. -/
def afterHost? (target : List Char) : Option (List Char) :=
  match target.dropWhile isSchemeChar with
  | ':' :: '/' :: '/' :: rest => some (rest.dropWhile fun c ↦ c ≠ '/' && !endsPath c)
  | _ => none

/-- The path of a target without what follows a question mark or a number sign.  An address without
a path has the root for one, and a host alone has none. -/
def pathOf (target : List Char) : List Char :=
  let before (cs : List Char) : List Char := cs.takeWhile fun c ↦ !endsPath c
  match target with
  | '/' :: _ => before target
  | _ =>
    match afterHost? target with
    | none => []
    | some rest => if (before rest).isEmpty then ['/'] else before rest

def Request.path (r : Request) : String := String.ofList (pathOf r.target.toList)

/-- Whether a byte of a header value is text. -/
def isVisible (b : UInt8) : Bool := (0x20 ≤ b && b < 0x7F) || b = 0x09

def visibleText? (bytes : List UInt8) : Option String :=
  if bytes.all isVisible then some (String.ofList (bytes.map fun b ↦ Char.ofNat b.toNat)) else none

/-- The first header of a name, if its value is text. -/
def Request.header? (r : Request) (name : String) : Option String :=
  (r.headers.find? fun h ↦ Text.sameLetters h.1 name).bind fun h ↦ visibleText? h.2

structure Response where
  status : Nat
  contentType : Option String
  allow : Option String
  body : List UInt8
deriving DecidableEq, Repr, Inhabited

end Cascade.Http
