/-!
# Media types

A media type is a type and a subtype with a slash between them and parameters after semicolons.  A
body is JSON if the type is `application` and the subtype is `json` or ends in `+json`; the subtype
proper goes up to its last plus.
-/

namespace Cascade.Http

def isTokenChar (c : Char) : Bool :=
  c.isAlphanum || "!#$%&'*+-.^_`|~".toList.contains c

def isQuotedChar (c : Char) : Bool := 31 < c.toNat && c.toNat ≠ 127

mutual

/-- Whether what follows a semicolon is a row of parameters; blanks may stand before each. -/
def areParams : List Char → Bool
  | [] => true
  | c :: cs => if c = ' ' then areParams cs else isTokenChar c && inName cs

/-- Whether the rest of the name of a parameter and what follows it are well formed. -/
def inName : List Char → Bool
  | [] => false
  | c :: cs => if c = '=' then atValue cs else isTokenChar c && inName cs

def atValue : List Char → Bool
  | [] => true
  | c :: cs => if c = '"' then atQuoted cs else isTokenChar c && inValue cs

/-- Whether the rest of a bare value and what follows it are well formed. -/
def inValue : List Char → Bool
  | [] => true
  | c :: cs => if c = ';' then areParams cs else isTokenChar c && inValue cs

/-- Whether a quoted value and what follows it are well formed; it has at least one character, which
may be a quote. -/
def atQuoted : List Char → Bool
  | [] => false
  | c :: cs => isQuotedChar c && inQuoted cs

/-- Whether the rest of a quoted value and what follows it are well formed. -/
def inQuoted : List Char → Bool
  | [] => false
  | c :: cs => if c = '"' then afterQuoted cs else isQuotedChar c && inQuoted cs

def afterQuoted : List Char → Bool
  | [] => true
  | c :: cs => if c = ';' then areParams cs else c = ' ' && afterQuoted cs

end

/-- A media type without its parameters. -/
structure MediaType where
  top : List Char
  /-- The subtype with everything after its pluses. -/
  sub : List Char
deriving DecidableEq, Repr

def MediaType.ofText? (s : String) : Option MediaType :=
  let cs := s.toList
  let top := cs.takeWhile (· ≠ '/')
  let rest := cs.dropWhile (· ≠ '/')
  let sub := (rest.drop 1).takeWhile (· ≠ ';')
  let params := (rest.drop 1).dropWhile (· ≠ ';')
  if top.isEmpty || rest.isEmpty || !top.all isTokenChar || !sub.all isTokenChar ||
      (sub.isEmpty && !params.isEmpty) || !areParams (params.drop 1) then none
  else some ⟨top.map Char.toLower, sub.map Char.toLower⟩

/-- The subtype proper and what follows its last plus.  A plus at the very start divides nothing. -/
def MediaType.parts (m : MediaType) : List Char × Option (List Char) :=
  match m.sub with
  | [] => ([], none)
  | c :: cs =>
    if cs.contains '+' then
      let suffix := (cs.reverse.takeWhile (· ≠ '+')).reverse
      ((c :: cs).take (cs.length - suffix.length), some suffix)
    else (c :: cs, none)

def MediaType.isJson (m : MediaType) : Bool :=
  let json := "json".toList
  m.top = "application".toList && (m.parts.1 = json || m.parts.2 = some json)

end Cascade.Http
