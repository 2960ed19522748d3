import Cascade.Yaml.Layout
import Cascade.Yaml.Quoted

/-!
# Tokens of the second edition

In flow context a key may be of any length and over several lines, and a colon ends one only if a
stop or an indicator follows it, or right after what is enclosed or between quotes.  A pair without
braces in a flow sequence is put between tokens for braces.  What goes on over several lines, also
in flow context, stays to the right of the collection around it.

Anchors, tags, directives and block scalars are refused.
-/

namespace Cascade.Yaml.V12

/-- The layout with what is known of the pairs in flow context. -/
structure Flow extends Layout where
  /-- Whether a brace or the mark of a key was read since a pair without braces last ended; if so,
  the next key begins no such pair. -/
  mapping : Bool
  pair : Bool
  /-- Where a colon ends a key whatever follows it. -/
  joint : Option (Nat × Nat)

namespace Flow

def start : Flow := ⟨.start, false, false, none⟩

def map (r : Layout → Layout) (f : Flow) : Flow := { f with toLayout := r f.toLayout }

def mapM (r : Layout → Option Layout) (f : Flow) : Option Flow :=
  (r f.toLayout).map fun l ↦ { f with toLayout := l }

def endPair (f : Flow) : Flow :=
  if f.pair then { f.map (·.emit .closeMap) with pair := false, mapping := false } else f

def placeOf (p : Placed) : Nat × Nat := (p.line, p.column)

/-- Notes that a colon ends a key if it comes next. -/
def joinTo (rest : List Placed) (f : Flow) : Flow := { f with joint := rest.head?.map placeOf }

/-- Expects the rest of a value to the right of the innermost block collection. -/
def expectRest (f : Flow) : Flow := f.map fun l ↦
  match l.indents with
  | ⟨column, true⟩ :: _ =>
    if l.inFlow then l else { l with indents := ⟨column + 1, false⟩ :: l.indents }
  | _ => l

/-- Expects no rest of a value any more. -/
def endRest (f : Flow) : Flow := f.map fun l ↦ { l with indents := l.indents.dropWhile (!·.block) }

end Flow

/-- Whether a character between words or the end of the text comes next. -/
def stopsNext (ps : List Placed) : Bool := Edition.v12.stopsNext ps

/-! ### Blanks -/

/-- The blanks that were passed over. -/
structure Blanks where
  space : Bool
  tab : Bool

/-- What follows the blanks and the comment up to the end of the line.  Nothing but a blank may
stand before a comment. -/
def skipToLineEnd (b : Blanks) : List Placed → Option (Blanks × List Placed)
  | [] => some (b, [])
  | p :: rest =>
    if p.char = ' ' then skipToLineEnd { b with space := true } rest
    else if p.char = '\t' then skipToLineEnd { b with tab := true } rest
    else if p.char = '#' then
      if b.space || b.tab then some (b, rest.dropWhile (·.char ≠ '\n')) else none
    else some (b, p :: rest)

/-- What follows the blanks and the comment after a token. -/
def skipAfter (rest : List Placed) : Option (List Placed) :=
  (skipToLineEnd ⟨false, false⟩ rest).map (·.2)

/-- What may stand on the rest of a line. -/
inductive Line where
  | free
  | barren
  | comment

/-- What follows blanks and comments, and whether a key may stand there.  A new line allows a key
in block context.  A line with a tab before the column of the innermost collection holds nothing
but blanks. -/
def skipBlanks (flow : Bool) (column : Nat) :
    Bool → Line → List Placed → Option (Bool × List Placed)
  | keys, _, [] => some (keys, [])
  | keys, line, p :: rest =>
    if p.char = '\n' then skipBlanks flow column (keys || !flow) .free rest
    else
      match line with
      | .comment => skipBlanks flow column keys .comment rest
      | .barren =>
        if isGap p.char then skipBlanks flow column keys .barren rest
        else if p.char = '#' then skipBlanks flow column keys .comment rest
        else none
      | .free =>
        if p.char = '\t' && p.leads && p.column < column then
          skipBlanks flow column keys .barren rest
        else if isGap p.char then skipBlanks flow column keys .free rest
        else if p.char = '#' then skipBlanks flow column keys .comment rest
        else some (keys, p :: rest)

/-- Passes over blanks and comments. -/
def Flow.skip (f : Flow) (ps : List Placed) : Option (Flow × List Placed) :=
  (skipBlanks f.inFlow f.column f.keys .free ps).map fun (keys, ps) ↦ (f.map (·.allowKeys keys), ps)

/-- What follows the blanks after a question mark; there must be some, and none is a tab. -/
def skipAfterMark (comment seen : Bool) : List Placed → Option (List Placed)
  | [] => if seen then some [] else none
  | p :: rest =>
    if p.char = '\n' then skipAfterMark false true rest
    else if comment then skipAfterMark true seen rest
    else if p.char = ' ' then skipAfterMark false true rest
    else if p.char = '#' then skipAfterMark true seen rest
    else if seen && p.char ≠ '\t' then some (p :: rest)
    else none

/-- A character that must not follow a colon with only tabs between them. -/
def isWordChar (c : Char) : Bool := c.isAlphanum || c = '_' || c = '-'

/-- What follows a colon, and blanks of which the first is a tab. -/
def skipAfterColon (rest : List Placed) : Option (List Placed) :=
  if rest.head?.any (·.char = '\t') then
    (skipToLineEnd ⟨false, false⟩ rest).bind fun (b, rest) ↦
      if !b.space && rest.head?.any (isWordChar ·.char) then none else some rest
  else some rest

/-! ### Scalars -/

/-- Whether a plain scalar cannot go on beyond a character. -/
def endsPlain (flow : Bool) (p : Placed) (rest : List Placed) : Bool :=
  (p.char = ':' && (stopsNext rest || (flow && flowNext rest))) ||
    (flow && isFlowIndicator p.char)

/-- How a character that is no blank goes with a plain scalar. -/
def continuation (flow : Bool) (least : Nat) (f : Folding) (p : Placed) (rest : List Placed) :
    Continuation :=
  let begins := f.text.isEmpty || !f.inWord
  if !flow && f.tooEarly least p then .ends
  else if begins && (Edition.v12.markerNext (p :: rest) || p.char = '#') then .ends
  else if begins && flow && p.char = '-' && flowNext rest then .refused
  else if endsPlain flow p rest then .ends
  else .goesOn

/-- Reads a plain scalar, whose further lines must stand at a column or after it in block context.
A line with a tab before that holds nothing but blanks; the end of a comment in it does not
count. -/
def readPlain (flow : Bool) (least : Nat) :
    Line → Folding → List Placed → Option (Folding × List Placed)
  | _, f, [] => some (f, [])
  | .comment, f, p :: rest =>
    readPlain flow least (if p.char = '\n' then .free else .comment) f rest
  | .barren, f, p :: rest =>
    if p.char = '\n' then readPlain flow least .free (f.endLine '\n') rest
    else if isGap p.char then readPlain flow least .barren f rest
    else if p.char = '#' then readPlain flow least .comment f rest
    else none
  | .free, f, p :: rest =>
    if p.char = '\n' then readPlain flow least .free (f.endLine '\n') rest
    else if p.char = '\t' && f.tooEarly least p then readPlain flow least .barren f rest
    else if isGap p.char then readPlain flow least .free (f.gap p.char) rest
    else
      match continuation flow least f p rest with
      | .goesOn => readPlain flow least .free (f.add p.char) rest
      | .ends => some (f, p :: rest)
      | .refused => none

/-- Whether a scalar between quotes may end before what comes next. -/
def mayFollowQuote (flow : Bool) (start : Nat) : List Placed → Bool
  | [] => true
  | p :: _ =>
    p.char = '\n' || (p.char = ':' && (flow || p.line = start)) ||
      (flow && (p.char = ',' || p.char = '}' || p.char = ']'))

/-- A reader of the next token, which begins with the given character. -/
abbrev Reader := Flow → Placed → List Placed → Option (Flow × List Placed)

def addQuoted (read : Nat → List Placed → Option (String × List Placed)) : Reader :=
  fun f p rest ↦ do
    let f ← f.mapM (·.propose p)
    let (text, rest) ← read f.column rest
    let rest ← skipAfter rest
    if !mayFollowQuote f.inFlow p.line rest then none
    let (f, rest) ← (f.map (·.allowKeys false)).skip rest
    return ((f.joinTo rest).map (·.emit (.scalar text false)), rest)

def addPlain : Reader := fun f p rest ↦ do
  let f := (← f.mapM (·.propose p)).endRest
  if f.inFlow && p.column < f.least then none
  let (scalar, rest) ← readPlain f.inFlow f.least .free .start (p :: rest)
  if scalar.text.isEmpty then none
  return (f.map fun l ↦ (l.allowKeys scalar.atLineStart).emit (.scalar scalar.unquoted true), rest)

/-! ### Indicators -/

/-- The most flow collections that may be open at once. -/
def deepestFlow : Nat := 255

def enter (t : Token) : Reader := fun f p rest ↦ do
  let f := (← f.mapM (·.propose p)).expectRest
  if deepestFlow ≤ f.outer.length then none
  return ({ f.map (·.enter t) with mapping := f.mapping || t = .openMap }, ← skipAfter rest)

def leave (t : Token) (f : Flow) (rest : List Placed) : Option (Flow × List Placed) := do
  let f := (← f.mapM (·.leave)).endPair.map (·.emit t)
  let rest ← skipAfter rest
  return (if f.inFlow then f.joinTo rest else f, rest)

def separate (f : Flow) (rest : List Placed) : Option (Flow × List Placed) := do
  let f := (← f.mapM (·.forget)).endPair
  return (f.map fun l ↦ (l.allowKeys true).emit .comma, ← skipAfter rest)

def beginItem : Reader := fun f p rest ↦ do
  if f.inFlow then none
  let f ← f.mapM (·.openHere .seqStart p)
  let (b, rest) ← skipToLineEnd ⟨false, false⟩ rest
  if b.tab && rest.head?.any (·.char = '-') && stopsNext rest.tail then none
  let f := if rest.head?.any (·.char = '\n') || flowNext rest then f.expectRest else f
  let f ← f.mapM (·.forget)
  return (f.map fun l ↦ (l.allowKeys true).emit .item, rest)

def beginKey : Reader := fun f p rest ↦ do
  let f ← f.mapM (·.beginKey p)
  return ({ f with mapping := f.mapping || f.inFlow }, ← skipAfterMark false false rest)

/-- Whether what may be a key is one if its colon stands here. -/
def reaches (flow : Bool) (p : Placed) (c : Candidate) : Bool :=
  flow || (c.start.line == p.line && p.column ≤ c.start.column + longestKey)

/-- A colon with a key before it, whose tokens are put before the key.  A pair without braces
stands on one line up to its colon. -/
def endKey (c : Candidate) (p : Placed) (lone : Bool) (f : Flow) : Option Flow :=
  if lone && c.start.line < p.line then none
  else
    let f := f.map (·.emitAt c.before .key)
    let f := if lone then f.map (·.emitAt c.before .openMap) else f
    let f := (f.map (·.openBlock .mapStart c.before c.start.column)).expectRest
    some (f.map fun l ↦ ({ l with candidate := none }.allowKeys false).emit .value)

def beginBareValue (p : Placed) (lone : Bool) (f : Flow) : Option Flow := do
  let f ← f.mapM (·.forget)
  let f := if lone then f.map (·.emit .openMap) else f
  let f := (← f.mapM (·.openHere .mapStart p)).expectRest
  return f.map fun l ↦ (l.allowKeys !l.inFlow).emit .value

def beginValue : Reader := fun f p rest ↦ do
  let lone := f.inFlow && !f.mapping
  let f := { f with pair := f.pair || lone }
  let rest ← skipAfterColon rest
  let f ← match f.candidate.filter (reaches f.inFlow p) with
    | some c => endKey c p lone f
    | none => beginBareValue p lone f
  return (f, rest)

/-- A colon in flow context with no stop after it. -/
def beginTightValue : Reader := fun f p rest ↦
  if f.joint = some (Flow.placeOf p) then beginValue f p rest
  else if rest.head?.any fun q ↦ q.char = '[' || q.char = '{' then none
  else if flowNext rest then beginValue f p rest
  else addPlain f p rest

/-- The end of a document, with nothing after it on its line. -/
def endDocument (f : Flow) (rest : List Placed) : Option (Flow × List Placed) := do
  let f ← f.mapM (·.markDocument .documentEnd)
  let rest ← skipAfter rest
  if rest.head?.all (·.char = '\n') then return (f, rest) else none

def refusedStarts : List Char := ['%', '@', '\x60', '*', '&', '!']

def read : Reader := fun f p rest ↦
  let stops := stopsNext rest
  if p.column = 0 && p.char = '%' then none
  else if Edition.v12.tripleNext '-' (p :: rest) then
    (f.mapM (·.markDocument .documentStart)).map (·, rest.drop 2)
  else if Edition.v12.tripleNext '.' (p :: rest) then endDocument f (rest.drop 2)
  else if p.column < f.column then none
  else
    match p.char with
    | '[' => enter .openSeq f p rest
    | '{' => enter .openMap f p rest
    | ']' => leave .closeSeq f rest
    | '}' => leave .closeMap f rest
    | ',' => separate f rest
    | '\'' => addQuoted (readSingle .v12 · .start) f p rest
    | '"' => addQuoted (readDouble .v12 · .start) f p rest
    | c =>
      if c = '-' && stops then beginItem f p rest
      else if c = '?' && stops then beginKey f p rest
      else if c = ':' && stops then beginValue f p rest
      else if c = ':' && f.inFlow then beginTightValue f p rest
      else if refusedStarts.contains c || (!f.inFlow && (c = '|' || c = '>')) then none
      else addPlain f p rest

/-- Reads the tokens up to the end of the text.  The first argument is more than the number of
characters, of which every token takes at least one. -/
def readAll : Nat → Flow → List Placed → Option (List Token)
  | 0, _, _ => none
  | n + 1, f, ps =>
    match f.skip ps with
    | none => none
    | some (f, []) => f.finish
    | some (f, p :: rest) =>
      (read (f.map (·.closeAfter p.column)) p rest).bind fun (f, rest) ↦ readAll n f rest

end Cascade.Yaml.V12
