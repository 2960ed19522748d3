import Cascade.Json.Value

/-!
# Compact JSON text

Values are written without blanks.  In strings the quote, the backslash and the control characters
are escaped, the usual ones by a letter and the others by four digits; everything else stands as
it is.  `Value.ascii` also escapes what is not ASCII, unit by unit of UTF-16.
-/

namespace Cascade.Json

def hexByte (n : Nat) : UInt8 := if n < 10 then (48 + n).toUInt8 else (87 + n).toUInt8

def escapeByte (b : UInt8) : List UInt8 :=
  if b = 0x22 then [0x5C, 0x22]
  else if b = 0x5C then [0x5C, 0x5C]
  else if b = 0x08 then [0x5C, 0x62]
  else if b = 0x0C then [0x5C, 0x66]
  else if b = 0x0A then [0x5C, 0x6E]
  else if b = 0x0D then [0x5C, 0x72]
  else if b = 0x09 then [0x5C, 0x74]
  else if b < 0x20 then [0x5C, 0x75, 0x30, 0x30, hexByte (b.toNat / 16), hexByte (b.toNat % 16)]
  else [b]

def writeString (bytes : List UInt8) : List UInt8 := 0x22 :: bytes.flatMap escapeByte ++ [0x22]

mutual

def write : Value → List UInt8
  | .null => Value.bytesOf "null"
  | .bool true => Value.bytesOf "true"
  | .bool false => Value.bytesOf "false"
  | .num text => Value.bytesOf text
  | .str bytes => writeString bytes
  | .arr items => 0x5B :: writeItems items ++ [0x5D]
  | .obj members => 0x7B :: writeMembers members ++ [0x7D]

def writeItems : List Value → List UInt8
  | [] => []
  | [v] => write v
  | v :: rest => write v ++ 0x2C :: writeItems rest

def writeMembers : List (List UInt8 × Value) → List UInt8
  | [] => []
  | [(key, v)] => writeString key ++ 0x3A :: write v
  | (key, v) :: rest => writeString key ++ 0x3A :: write v ++ 0x2C :: writeMembers rest

end

def Value.compact (v : Value) : String := (Value.textOf? (write v)).getD ""

def escapeUnit (u : Nat) : List Char :=
  ['\\', 'u', Nat.digitChar (u / 4096), Nat.digitChar (u / 256 % 16), Nat.digitChar (u / 16 % 16),
    Nat.digitChar (u % 16)]

/-- A character in ASCII: an escape for each unit of UTF-16, where it is not ASCII itself. -/
def asciiChar (c : Char) : List Char :=
  if c.toNat < 128 then [c]
  else if c.toNat < 65536 then escapeUnit c.toNat
  else escapeUnit (0xD800 + (c.toNat - 65536) / 1024) ++ escapeUnit (0xDC00 + c.toNat % 1024)

/-- The compact text of a value in ASCII.  Outside strings the compact text is ASCII already. -/
def Value.ascii (v : Value) : String := String.ofList (v.compact.toList.flatMap asciiChar)

end Cascade.Json
