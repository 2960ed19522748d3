import Cascade.Yaml.Folding
import Cascade.Yaml.Source

/-!
# Scalars between quotes

Between single quotes a quote is written twice; between double quotes a backslash begins an escape.
A column may be given before which no further line of the scalar begins.
-/

namespace Cascade.Yaml

/-- Whether a character begins a line of a scalar before a column. -/
def Folding.tooEarly (f : Folding) (least : Nat) (p : Placed) : Bool :=
  f.atLineStart && p.column < least

/-- Takes in a blank or the end of a line, unless a tab stands before a column at the start of a
line. -/
def Folding.stop? (f : Folding) (e : Edition) (least : Nat) (p : Placed) : Option Folding :=
  if e.isBreak p.char then some (f.endLine p.char)
  else if p.char = '\t' && f.tooEarly least p then none
  else some (f.gap p.char)

variable (e : Edition) (least : Nat)

/-- Reads a scalar after its opening single quote, up to and past the closing one.  A quote in it is
written twice. -/
def readSingle (f : Folding) : List Placed → Option (String × List Placed)
  | [] => none
  | p :: rest =>
    if e.isStop p.char then (f.stop? e least p).bind fun f ↦ readSingle f rest
    else if e.markerNext (p :: rest) || f.tooEarly least p then none
    else if p.char = '\'' then
      match rest with
      | [] => some (f.quoted, [])
      | q :: after =>
        if q.char = '\'' then readSingle (f.add '\'') after else some (f.quoted, q :: after)
    else readSingle (f.add p.char) rest

def escapedLetter? : Char → Option Char
  | '0' => some '\x00'
  | 'a' => some '\x07'
  | 'b' => some '\x08'
  | 't' => some '\t'
  | '\t' => some '\t'
  | 'n' => some '\n'
  | 'v' => some '\x0b'
  | 'f' => some '\x0c'
  | 'r' => some '\r'
  | 'e' => some '\x1b'
  | ' ' => some ' '
  | '"' => some '"'
  | '/' => some '/'
  | '\\' => some '\\'
  | 'N' => some '\u0085'
  | '_' => some '\u00a0'
  | 'L' => some '\u2028'
  | 'P' => some '\u2029'
  | _ => none

def hexDigit? (c : Char) : Option Nat :=
  if '0' ≤ c ∧ c ≤ '9' then some (c.toNat - 48)
  else if 'a' ≤ c ∧ c ≤ 'f' then some (c.toNat - 87)
  else if 'A' ≤ c ∧ c ≤ 'F' then some (c.toNat - 55)
  else none

/-- The character whose number these hexadecimal digits write, if there is such a character. -/
def hexChar? (digits : List Placed) : Option Char := do
  let ds ← digits.mapM fun p ↦ hexDigit? p.char
  let n := ds.foldl (fun n d ↦ n * 16 + d) 0
  if n.isValidChar then some (Char.ofNat n) else none

/-- Reads a scalar after its opening double quote, up to and past the closing one.  The closing
quote may stand right after the end of a line that is to be read as nothing. -/
def readDouble (f : Folding) : List Placed → Option (String × List Placed)
  | [] => none
  | p :: rest =>
    if e.isStop p.char then (f.stop? e least p).bind fun f ↦ readDouble f rest
    else if p.char = '"' && f.afterEscape && p.column = 0 then some (f.quoted, rest)
    else if e.markerNext (p :: rest) || f.tooEarly least p then none
    else if p.char = '"' then some (f.quoted, rest)
    else if p.char = '\\' then
      match rest with
      | [] => none
      | c :: rest =>
        if e.isBreak c.char then readDouble f.escapeLine rest
        else if c.char = 'x' then
          match rest with
          | a :: b :: rest => (hexChar? [a, b]).bind fun c ↦ readDouble (f.add c) rest
          | _ => none
        else if c.char = 'u' then
          match rest with
          | a :: b :: c :: d :: rest =>
            (hexChar? [a, b, c, d]).bind fun c ↦ readDouble (f.add c) rest
          | _ => none
        else if c.char = 'U' then
          match rest with
          | a :: b :: c :: d :: g :: h :: i :: j :: rest =>
            (hexChar? [a, b, c, d, g, h, i, j]).bind fun c ↦ readDouble (f.add c) rest
          | _ => none
        else (escapedLetter? c.char).bind fun c ↦ readDouble (f.add c) rest
    else readDouble (f.add p.char) rest

end Cascade.Yaml
