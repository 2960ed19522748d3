import Cascade.Json.Value

/-!
# Reading JSON

The grammar of RFC 8259 over bytes.  Control characters inside strings and anything but blanks
after the value are refused.  An escaped half of a surrogate pair that stands alone is kept as the
three bytes that would encode it, so the string is no text but the document is well formed.
-/

namespace Cascade.Json.Reader

def isSpace (b : UInt8) : Bool := b = 0x20 || b = 0x09 || b = 0x0A || b = 0x0D

def skip (bs : List UInt8) : List UInt8 := bs.dropWhile isSpace

def isDigit (b : UInt8) : Bool := 0x30 ≤ b && b ≤ 0x39

def hexValue? (b : UInt8) : Option Nat :=
  if 0x30 ≤ b ∧ b ≤ 0x39 then some (b.toNat - 0x30)
  else if 0x61 ≤ b ∧ b ≤ 0x66 then some (b.toNat - 0x57)
  else if 0x41 ≤ b ∧ b ≤ 0x46 then some (b.toNat - 0x37)
  else none

/-- The number of four hexadecimal digits. -/
def hexUnit? (a b c d : UInt8) : Option Nat := do
  let a ← hexValue? a
  let b ← hexValue? b
  let c ← hexValue? c
  let d ← hexValue? d
  return ((a * 16 + b) * 16 + c) * 16 + d

/-- The bytes that encode a code point, also that of half a surrogate pair. -/
def encode (n : Nat) : List UInt8 :=
  if n < 0x80 then [n.toUInt8]
  else if n < 0x800 then [(0xC0 + n / 64).toUInt8, (0x80 + n % 64).toUInt8]
  else if n < 0x10000 then
    [(0xE0 + n / 4096).toUInt8, (0x80 + n / 64 % 64).toUInt8, (0x80 + n % 64).toUInt8]
  else
    [(0xF0 + n / 262144).toUInt8, (0x80 + n / 4096 % 64).toUInt8, (0x80 + n / 64 % 64).toUInt8,
      (0x80 + n % 64).toUInt8]

/-- What has been read of a string: its bytes, the last first, and the first half of a surrogate
pair that waits for the second. -/
structure Partial where
  /-- The bytes, the last first. -/
  bytes : List UInt8
  /-- A first half that waits for the second. -/
  half : Option Nat

namespace Partial

/-- The bytes with a waiting half written out alone. -/
def settle (p : Partial) : List UInt8 :=
  match p.half with
  | none => p.bytes
  | some h => (encode h).reverse ++ p.bytes

def byte (p : Partial) (b : UInt8) : Partial := ⟨b :: p.settle, none⟩

/-- Takes in an escaped unit, which may complete a pair. -/
def unit (p : Partial) (u : Nat) : Partial :=
  match p.half with
  | some h =>
    if 0xDC00 ≤ u ∧ u ≤ 0xDFFF then
      ⟨(encode (0x10000 + (h - 0xD800) * 1024 + (u - 0xDC00))).reverse ++ p.bytes, none⟩
    else if 0xD800 ≤ u ∧ u ≤ 0xDBFF then ⟨p.settle, some u⟩
    else ⟨(encode u).reverse ++ p.settle, none⟩
  | none =>
    if 0xD800 ≤ u ∧ u ≤ 0xDBFF then ⟨p.bytes, some u⟩
    else ⟨(encode u).reverse ++ p.bytes, none⟩

end Partial

def letterEscape? (b : UInt8) : Option UInt8 :=
  if b = 0x22 then some 0x22
  else if b = 0x5C then some 0x5C
  else if b = 0x2F then some 0x2F
  else if b = 0x62 then some 0x08
  else if b = 0x66 then some 0x0C
  else if b = 0x6E then some 0x0A
  else if b = 0x72 then some 0x0D
  else if b = 0x74 then some 0x09
  else none

/-- Reads a string after its opening quote, up to and past the closing one. -/
def readString (p : Partial) : List UInt8 → Option (List UInt8 × List UInt8)
  | [] => none
  | 0x22 :: rest => some (p.settle.reverse, rest)
  | 0x5C :: 0x75 :: a :: b :: c :: d :: rest =>
    match hexUnit? a b c d with
    | none => none
    | some u => readString (p.unit u) rest
  | 0x5C :: e :: rest =>
    match letterEscape? e with
    | none => none
    | some b => readString (p.byte b) rest
  | b :: rest => if b < 0x20 ∨ b = 0x5C then none else readString (p.byte b) rest

def dropDigits? : List UInt8 → Option (List UInt8)
  | [] => none
  | b :: rest => if isDigit b then some (rest.dropWhile isDigit) else none

/-- What follows the whole part of a number, which starts with a zero only if it is zero. -/
def dropWhole? : List UInt8 → Option (List UInt8)
  | 0x30 :: rest => if (rest.head?.map isDigit).getD false then none else some rest
  | bs => dropDigits? bs

/-- What follows the fraction of a number, if there is one. -/
def dropFraction? : List UInt8 → Option (List UInt8)
  | 0x2E :: rest => dropDigits? rest
  | bs => some bs

/-- What follows the exponent of a number, if there is one. -/
def dropExponent? : List UInt8 → Option (List UInt8)
  | [] => some []
  | e :: rest =>
    if e = 0x65 ∨ e = 0x45 then
      match rest with
      | [] => none
      | s :: rest => if s = 0x2B ∨ s = 0x2D then dropDigits? rest else dropDigits? (s :: rest)
    else some (e :: rest)

def dropNumber? (bs : List UInt8) : Option (List UInt8) := do
  let whole ← match bs with
    | 0x2D :: rest => dropWhole? rest
    | bs => dropWhole? bs
  let fraction ← dropFraction? whole
  dropExponent? fraction

def readNumber (bs : List UInt8) : Option (Value × List UInt8) := do
  let rest ← dropNumber? bs
  let text ← Value.textOf? (bs.take (bs.length - rest.length))
  return (.num text, rest)

/-- What follows a fixed word. -/
def word? (word : String) (bs : List UInt8) : Option (List UInt8) :=
  let w := Value.bytesOf word
  if w.isPrefixOf bs then some (bs.drop w.length) else none

mutual

/-- Reads a value.  The first argument bounds how deep and how long it may be. -/
def readValue : Nat → List UInt8 → Option (Value × List UInt8)
  | 0, _ => none
  | n + 1, bs =>
    match skip bs with
    | [] => none
    | 0x22 :: rest => (readString ⟨[], none⟩ rest).map fun r ↦ (.str r.1, r.2)
    | 0x5B :: rest =>
      match skip rest with
      | 0x5D :: rest => some (.arr [], rest)
      | rest => (readItems n rest).map fun r ↦ (.arr r.1, r.2)
    | 0x7B :: rest =>
      match skip rest with
      | 0x7D :: rest => some (.obj [], rest)
      | rest => (readMembers n rest).map fun r ↦ (.obj r.1, r.2)
    | 0x6E :: rest => (word? "ull" rest).map (.null, ·)
    | 0x74 :: rest => (word? "rue" rest).map (.bool true, ·)
    | 0x66 :: rest => (word? "alse" rest).map (.bool false, ·)
    | bs => readNumber bs

def readItems : Nat → List UInt8 → Option (List Value × List UInt8)
  | 0, _ => none
  | n + 1, bs =>
    match readValue n bs with
    | none => none
    | some (v, rest) =>
      match skip rest with
      | 0x5D :: rest => some ([v], rest)
      | 0x2C :: rest => (readItems n rest).map fun r ↦ (v :: r.1, r.2)
      | _ => none

def readMembers : Nat → List UInt8 → Option (List (List UInt8 × Value) × List UInt8)
  | 0, _ => none
  | n + 1, bs =>
    match skip bs with
    | 0x22 :: rest =>
      match readString ⟨[], none⟩ rest with
      | none => none
      | some (key, rest) =>
        match skip rest with
        | 0x3A :: rest =>
          match readValue n rest with
          | none => none
          | some (v, rest) =>
            match skip rest with
            | 0x7D :: rest => some ([(key, v)], rest)
            | 0x2C :: rest => (readMembers n rest).map fun r ↦ ((key, v) :: r.1, r.2)
            | _ => none
        | _ => none
    | _ => none

end

end Reader

/-- The value of a JSON document.  Every step of the reader takes a byte or goes one level down,
so twice the length of the document is more than it needs. -/
def Value.ofBytes? (bs : List UInt8) : Option Value :=
  match Reader.readValue (2 * bs.length + 2) bs with
  | some (v, rest) => if (Reader.skip rest).isEmpty then some v else none
  | none => none

def Value.ofText? (s : String) : Option Value := ofBytes? (bytesOf s)

end Cascade.Json
