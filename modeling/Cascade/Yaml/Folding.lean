/-!
# Scalars over several lines

A single line end within a scalar reads as a blank, and of more the first is dropped.  Blanks around
the end of a line are dropped, too.
-/

namespace Cascade.Yaml

/-- What waits until it is known whether the scalar goes on. -/
inductive Waiting where
  /-- Blanks on the line, the last first. -/
  | gaps (cs : List Char)
  /-- The end of a line (none if it was escaped), and further ones, the last first. -/
  | lines (first : Option Char) (more : List Char)

/-- What has been read of a scalar. -/
structure Folding where
  /-- Its characters, the last first. -/
  text : List Char
  waiting : Waiting

namespace Folding

def start : Folding := ⟨[], .gaps []⟩

/-- The characters with what waited, the last first.  One line end becomes a blank; of more the
first is dropped. -/
def settle (f : Folding) : List Char :=
  match f.waiting with
  | .gaps cs => cs ++ f.text
  | .lines (some '\n') [] => ' ' :: f.text
  | .lines (some '\n') more => more ++ f.text
  | .lines (some c) more => more ++ c :: f.text
  | .lines none more => more ++ f.text

def add (c : Char) (f : Folding) : Folding := ⟨c :: f.settle, .gaps []⟩

/-- Takes in a blank.  Blanks at the start of a line are dropped. -/
def gap (c : Char) (f : Folding) : Folding :=
  match f.waiting with
  | .gaps cs => { f with waiting := .gaps (c :: cs) }
  | .lines _ _ => f

/-- Takes in the end of a line.  Blanks before it are dropped. -/
def endLine (c : Char) (f : Folding) : Folding :=
  match f.waiting with
  | .gaps _ => { f with waiting := .lines (some c) [] }
  | .lines first more => { f with waiting := .lines first (c :: more) }

/-- Takes in the end of a line that is to be read as nothing. -/
def escapeLine (f : Folding) : Folding := ⟨f.settle, .lines none []⟩

/-- Whether a line has ended since the last character. -/
def atLineStart (f : Folding) : Bool :=
  match f.waiting with
  | .gaps _ => false
  | .lines _ _ => true

/-- Whether the last thing read is the end of a line that is to be read as nothing, or blanks after
it. -/
def afterEscape (f : Folding) : Bool :=
  match f.waiting with
  | .lines none [] => true
  | _ => false

/-- Whether the last character belongs to the text. -/
def inWord (f : Folding) : Bool :=
  match f.waiting with
  | .gaps cs => cs.isEmpty
  | .lines _ _ => false

/-- The text of a scalar that ends with a quote: what waited belongs to it. -/
def quoted (f : Folding) : String := String.ofList f.settle.reverse

/-- The text of a scalar that ends by itself: what waited does not belong to it. -/
def unquoted (f : Folding) : String := String.ofList f.text.reverse

end Folding

end Cascade.Yaml
