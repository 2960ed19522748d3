/-!
# Characters and their places

YAML cares for lines and columns, so a text is read as its characters with their places.  The two
editions of the format differ in what they take for the end of a line and in which characters a text
may contain.
-/

namespace Cascade.Yaml

/-- An edition of the format. -/
inductive Edition where
  | v11
  | v12
deriving DecidableEq, Repr

/-- A character and where it stands. -/
structure Placed where
  char : Char
  /-- The number of lines before its own. -/
  line : Nat
  /-- The number of characters before it on its line. -/
  column : Nat
  /-- The number of bytes before it on its line. -/
  offset : Nat
  /-- Whether there are only blanks before it on its line. -/
  leads : Bool
deriving DecidableEq, Repr

/-- A character that ends a line, where carriage returns do no more.  The first edition knows the
separators of Unicode, too. -/
def Edition.isBreak : Edition → Char → Bool
  | v11, c => c = '\n' || c = '\u2028' || c = '\u2029'
  | v12, c => c = '\n'

/-- A blank within a line. -/
def isGap (c : Char) : Bool := c = ' ' || c = '\t'

/-- A character between words. -/
def Edition.isStop (e : Edition) (c : Char) : Bool := isGap c || e.isBreak c

/-- The mark of the byte order, which may stand before a text. -/
def orderMark : Char := '\ufeff'

/-- A character that a text of the first edition may contain. -/
def isPrintable (c : Char) : Bool :=
  let n := c.toNat
  n == 0x09 || n == 0x0A || n == 0x0D || (0x20 ≤ n && n ≤ 0x7E) || n == 0x85 ||
    (0xA0 ≤ n && n ≤ 0xD7FF) || (0xE000 ≤ n && n ≤ 0xFFFD) || 0x10000 ≤ n

/-- A text in which a line feed ends every line but those that a separator of Unicode ends. -/
def Edition.unifyBreaks (e : Edition) : List Char → List Char
  | [] => []
  | '\r' :: '\n' :: rest => '\n' :: e.unifyBreaks rest
  | '\r' :: rest => '\n' :: e.unifyBreaks rest
  | c :: rest => (if e = .v11 && c = '\u0085' then '\n' else c) :: e.unifyBreaks rest

/-- Characters with their places, from a place on. -/
def Edition.place (e : Edition) (line column offset : Nat) (leads : Bool) :
    List Char → List Placed
  | [] => []
  | c :: rest =>
    ⟨c, line, column, offset, leads⟩ ::
      if e.isBreak c then e.place (line + 1) 0 0 true rest
      else e.place line (column + 1) (offset + c.utf8Size) (leads && isGap c) rest

/-- A text without the mark of its byte order. -/
def dropOrderMark : List Char → List Char
  | [] => []
  | c :: cs => if c = orderMark then cs else c :: cs

/-- The characters of a text that count, unless there is one that it may not contain.  A text of
the second edition ends at a zero character, and the mark of the byte order is not part of it. -/
def Edition.content? (e : Edition) (s : String) : Option (List Char) :=
  match e with
  | v11 => if s.toList.all isPrintable then some s.toList else none
  | v12 => some ((dropOrderMark s.toList).takeWhile (· ≠ '\x00'))

/-- The characters of a text with their places. -/
def Edition.placed? (e : Edition) (s : String) : Option (List Placed) :=
  (e.content? s).map fun cs ↦ e.place 0 0 0 true (e.unifyBreaks cs)

/-- Whether a character between words or the end of the text comes next. -/
def Edition.stopsNext (e : Edition) : List Placed → Bool
  | [] => true
  | p :: _ => e.isStop p.char

/-- Whether the next three characters are alike, with nothing but the line before them and a stop
after them. -/
def Edition.tripleNext (e : Edition) (c : Char) : List Placed → Bool
  | a :: b :: d :: rest =>
    a.column == 0 && a.char == c && b.char == c && d.char == c && e.stopsNext rest
  | _ => false

/-- Whether the next characters begin or end a document. -/
def Edition.markerNext (e : Edition) (ps : List Placed) : Bool :=
  e.tripleNext '-' ps || e.tripleNext '.' ps

/-- The characters that separate and enclose in flow context. -/
def isFlowIndicator (c : Char) : Bool := c = ',' || c = '[' || c = ']' || c = '{' || c = '}'

def flowNext (ps : List Placed) : Bool := ps.head?.any fun p ↦ isFlowIndicator p.char

end Cascade.Yaml
