import Cascade.Hash.Sha1
import Cascade.Text.Blank

/-!
# Universally unique ids

An id is sixteen bytes.  Ids are ordered by their bytes, written as thirty-two small hexadecimal
digits in groups of 8, 4, 4, 4 and 12, and read from a few shapes of that text.  An id made from a
name is version 5: it carries the SHA-1 digest of a namespace and the name.
-/

namespace Cascade

/-- A 128-bit id. -/
structure Uuid where
  /-- The bytes, the most significant first. -/
  bytes : List UInt8
  size_eq : bytes.length = 16
deriving DecidableEq

namespace Uuid

instance : Inhabited Uuid := ⟨⟨List.replicate 16 0, rfl⟩⟩

@[ext] theorem ext {a b : Uuid} (h : a.bytes = b.bytes) : a = b := by
  cases a; cases b; cases h; rfl

/-- Ids are ordered by their bytes, the first byte that differs deciding. -/
instance : LT Uuid := ⟨fun a b ↦ a.bytes < b.bytes⟩

instance : DecidableLT Uuid := fun a b ↦ inferInstanceAs (Decidable (a.bytes < b.bytes))

theorem lt_def {a b : Uuid} : a < b ↔ a.bytes < b.bytes := Iff.rfl

protected theorem lt_irrefl (a : Uuid) : ¬ a < a := List.lt_irrefl a.bytes

protected theorem lt_trans {a b c : Uuid} (h : a < b) (k : b < c) : a < c :=
  List.lt_trans (α := UInt8) h k

protected theorem lt_asymm {a b : Uuid} (h : a < b) : ¬ b < a :=
  fun k ↦ Uuid.lt_irrefl a (Uuid.lt_trans h k)

protected theorem lt_or_lt_of_ne {a b : Uuid} (h : a ≠ b) : a < b ∨ b < a := by
  by_cases k : a < b
  · exact .inl k
  · by_cases l : b < a
    · exact .inr l
    · exact absurd (Uuid.ext (List.le_antisymm (α := UInt8) l k)) h

/-! ### Text -/

/-- The small hexadecimal digit of a number below sixteen. -/
def hexDigit (n : Nat) : Char :=
  if n < 10 then Char.ofNat (48 + n) else Char.ofNat (87 + n)

def hexValue? (c : Char) : Option Nat :=
  if '0' ≤ c ∧ c ≤ '9' then some (c.toNat - 48)
  else if 'a' ≤ c ∧ c ≤ 'f' then some (c.toNat - 87)
  else if 'A' ≤ c ∧ c ≤ 'F' then some (c.toNat - 55)
  else none

def hexByte (b : UInt8) : List Char := [hexDigit (b.toNat / 16), hexDigit (b.toNat % 16)]

def hexBytes (bs : List UInt8) : List Char := bs.flatMap hexByte

/-- The digits of an id with a hyphen after the fourth, sixth, eighth and tenth byte. -/
def toChars (id : Uuid) : List Char :=
  hexBytes (id.bytes.take 4) ++ '-' :: hexBytes ((id.bytes.drop 4).take 2) ++
    '-' :: hexBytes ((id.bytes.drop 6).take 2) ++ '-' :: hexBytes ((id.bytes.drop 8).take 2) ++
    '-' :: hexBytes (id.bytes.drop 10)

def toText (id : Uuid) : String := String.ofList id.toChars

instance : ToString Uuid := ⟨toText⟩

instance : Repr Uuid := ⟨fun id _ ↦ id.toText⟩

/-- The first four bytes of an id as eight digits, enough to tell alerts apart. -/
def shortText (id : Uuid) : String := String.ofList (hexBytes (id.bytes.take 4))

/-- The bytes of a text that consists of pairs of hexadecimal digits. -/
def readHex : List Char → Option (List UInt8)
  | [] => some []
  | [_] => none
  | c :: d :: rest => do
    let hi ← hexValue? c
    let lo ← hexValue? d
    let bytes ← readHex rest
    return (hi * 16 + lo).toUInt8 :: bytes

def ofBytes? (bytes : List UInt8) : Option Uuid :=
  if h : bytes.length = 16 then some ⟨bytes, h⟩ else none

/-- The id of thirty-two digits without hyphens. -/
def readSimple (cs : List Char) : Option Uuid := readHex cs >>= ofBytes?

/-- The id of thirty-two digits with hyphens between the groups. -/
def readHyphenated (cs : List Char) : Option Uuid :=
  if cs.length = 36 ∧ cs[8]? = some '-' ∧ cs[13]? = some '-' ∧ cs[18]? = some '-' ∧
      cs[23]? = some '-' then
    readSimple (cs.take 8 ++ (cs.drop 9).take 4 ++ (cs.drop 14).take 4 ++ (cs.drop 19).take 4 ++
      cs.drop 24)
  else none

/-- What stands between an opening brace and a closing brace at the very end. -/
def unbrace? : List Char → Option (List Char)
  | '\x7b' :: rest => if rest.getLast? = some '\x7d' then some rest.dropLast else none
  | _ => none

/-- The lead of an id written as a resource name. -/
def urnLead : List Char := "urn:uuid:".toList

/-- What follows the resource-name lead, in whatever case its letters are. -/
def unurn? (cs : List Char) : Option (List Char) :=
  if (cs.take 9).map Char.toLower = urnLead then some (cs.drop 9) else none

/-- Reads thirty-two digits, or the hyphenated form, bare, in braces or as a resource name.
Nothing else may stand around it. -/
def ofChars? (cs : List Char) : Option Uuid :=
  match readSimple cs, readHyphenated cs with
  | some id, _ => some id
  | none, some id => some id
  | none, none =>
    match unbrace? cs, unurn? cs with
    | some inner, _ => readHyphenated inner
    | none, some inner => readHyphenated inner
    | none, none => none

def ofText? (s : String) : Option Uuid := ofChars? s.toList

/-! ### Ids from names -/

/-- The first sixteen bytes of a digest with the version and the variant written over them. -/
def stamp (version : UInt8) (digest : List UInt8) : List UInt8 :=
  (digest.take 16).mapIdx fun (i : Nat) (b : UInt8) ↦
    if i = 6 then (b &&& (0x0F : UInt8)) ||| (version <<< (4 : UInt8))
    else if i = 8 then (b &&& (0x3F : UInt8)) ||| (0x80 : UInt8)
    else b

/-- The version-5 id of a name in a namespace. -/
def named (space : Uuid) (name : String) : Uuid where
  bytes := stamp 5 (Hash.Sha1.digest (space.bytes ++ name.toUTF8.toList))
  size_eq := by simp [stamp, Hash.Sha1.length_digest]

end Uuid

end Cascade
