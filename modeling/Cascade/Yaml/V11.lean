import Cascade.Yaml.Layout
import Cascade.Yaml.Quoted

/-!
# Tokens of the first edition

A key stands on one line and has at most 1024 bytes.  In flow context a question mark always begins
a key and a colon always ends one.

Anchors, tags, directives and block scalars are refused.
-/

namespace Cascade.Yaml.V11

/-- What follows blanks and comments, and whether a key may stand there.  A new line allows a key
in block context; a tab is no blank where a key may stand, and the mark of a byte order is one at
the start of a line. -/
def skipBlanks (flow : Bool) : Bool → Bool → List Placed → Bool × List Placed
  | keys, _, [] => (keys, [])
  | keys, comment, p :: rest =>
    if Edition.v11.isBreak p.char then skipBlanks flow (keys || !flow) false rest
    else if comment then skipBlanks flow keys true rest
    else if p.char = orderMark && p.column = 0 then skipBlanks flow keys false rest
    else if p.char = ' ' || (p.char = '\t' && (flow || !keys)) then skipBlanks flow keys false rest
    else if p.char = '#' then skipBlanks flow keys true rest
    else (keys, p :: rest)

/-- How a character that is no blank goes with a plain scalar. -/
def continuation (flow : Bool) (least : Nat) (f : Folding) (p : Placed) (rest : List Placed) :
    Continuation :=
  if !flow && f.tooEarly least p then .ends
  else if Edition.v11.markerNext (p :: rest) then .ends
  else if p.char = '#' && !f.inWord then .ends
  else if p.char = ':' && flow && (flowNext rest || rest.head?.any (·.char = '?')) then .refused
  else if p.char = ':' && Edition.v11.stopsNext rest then .ends
  else if flow && isFlowIndicator p.char then .ends
  else .goesOn

/-- Reads a plain scalar, whose further lines must stand at a column or after it in block context.
A tab may not stand in for that. -/
def readPlain (flow : Bool) (least : Nat) (f : Folding) :
    List Placed → Option (Folding × List Placed)
  | [] => some (f, [])
  | p :: rest =>
    if Edition.v11.isStop p.char then
      (f.stop? .v11 least p).bind fun f ↦ readPlain flow least f rest
    else
      match continuation flow least f p rest with
      | .goesOn => readPlain flow least (f.add p.char) rest
      | .ends => some (f, p :: rest)
      | .refused => none

/-- Whether what may be a key is one if its colon stands here. -/
def reaches (p : Placed) (c : Candidate) : Bool :=
  c.start.line == p.line && p.offset ≤ c.start.offset + longestKey

/-- A colon with a key before it, whose tokens are put before the key. -/
def endKey (c : Candidate) (l : Layout) : Layout :=
  let l := (l.emitAt c.before .key).openBlock .mapStart c.before c.start.column
  ({ l with candidate := none }.allowKeys false).emit .value

def beginBareValue (p : Placed) (l : Layout) : Option Layout := do
  let l ← l.openHere .mapStart p
  return (l.allowKeys !l.inFlow).emit .value

def beginValue (p : Placed) (l : Layout) : Option Layout :=
  match l.candidate with
  | none => beginBareValue p l
  | some c => if reaches p c then some (endKey c l) else l.forget.bind (beginBareValue p)

def addQuoted (read : List Placed → Option (String × List Placed)) : Layout.Reader :=
  fun l p rest ↦ do
    let l ← l.propose p
    let (text, rest) ← read rest
    return ((l.allowKeys false).emit (.scalar text false), rest)

def addPlain : Layout.Reader := fun l p rest ↦ do
  let l ← l.propose p
  let (f, rest) ← readPlain l.inFlow l.least .start (p :: rest)
  return ((l.allowKeys f.atLineStart).emit (.scalar f.unquoted true), rest)

/-- The characters that a plain scalar does not begin with. -/
def indicators : List Char :=
  ['-', '?', ':', ',', '[', ']', '{', '}', '#', '&', '*', '!', '|', '>', '\'', '"',
    '%', '@', '\x60']

def plainStarts (l : Layout) (p : Placed) (rest : List Placed) : Bool :=
  if Edition.v11.isStop p.char then false
  else if indicators.contains p.char then
    !Edition.v11.stopsNext rest && (p.char = '-' || (!l.inFlow && (p.char = '?' || p.char = ':')))
  else true

def read : Layout.Reader := fun l p rest ↦
  let stops := Edition.v11.stopsNext rest
  if p.column = 0 && p.char = '%' then none
  else if Edition.v11.tripleNext '-' (p :: rest) then
    (l.markDocument .documentStart).map (·, rest.drop 2)
  else if Edition.v11.tripleNext '.' (p :: rest) then
    (l.markDocument .documentEnd).map (·, rest.drop 2)
  else
    match p.char with
    | '[' => (l.propose p).map fun l ↦ (l.enter .openSeq, rest)
    | '{' => (l.propose p).map fun l ↦ (l.enter .openMap, rest)
    | ']' => l.leave.map fun l ↦ (l.emit .closeSeq, rest)
    | '}' => l.leave.map fun l ↦ (l.emit .closeMap, rest)
    | ',' => l.forget.map fun l ↦ ((l.allowKeys true).emit .comma, rest)
    | '\'' => addQuoted (readSingle .v11 0 .start) l p rest
    | '"' => addQuoted (readDouble .v11 0 .start) l p rest
    | c =>
      if c = '-' && stops then (l.beginItem p).map (·, rest)
      else if c = '?' && (l.inFlow || stops) then (l.beginKey p).map (·, rest)
      else if c = ':' && (l.inFlow || stops) then (beginValue p l).map (·, rest)
      else if plainStarts l p rest then addPlain l p rest
      else none

/-- Reads the tokens up to the end of the text.  The first argument is more than the number of
characters, of which every token takes at least one. -/
def readAll : Nat → Layout → List Placed → Option (List Token)
  | 0, _, _ => none
  | n + 1, l, ps =>
    let (keys, ps) := skipBlanks l.inFlow l.keys false ps
    let l := l.allowKeys keys
    match ps with
    | [] => l.finish
    | p :: rest => (read (l.closeAfter p.column) p rest).bind fun (l, rest) ↦ readAll n l rest

end Cascade.Yaml.V11
