import Cascade.Uuid
import Mathlib

/-!
# The written form of an id

Two hexadecimal digits stand for each byte, so reading the digits gives the bytes back
(`readHex_hexBytes`).  The hyphens of the written form keep it from being read as digits alone, and
are passed over where it is read with them.  So `ofText?_toText` says that every id can be read
back, and `toText_inj` that different ids are written differently.
-/

namespace Cascade.Uuid

/-! ### Digits -/

theorem hexValue?_hexDigit {n : Nat} (h : n < 16) : hexValue? (hexDigit n) = some n := by
  have all : ∀ n : Fin 16, hexValue? (hexDigit n) = some n.val := by decide
  exact all ⟨n, h⟩

/-- The two digits of a byte are read as that byte. -/
theorem readHex_hexByte (b : UInt8) (rest : List Char) :
    readHex (hexByte b ++ rest) = (readHex rest).map (b :: ·) := by
  have hi := hexValue?_hexDigit (n := b.toNat / 16) (by have := b.toNat_lt; omega)
  have lo := hexValue?_hexDigit (n := b.toNat % 16) (by omega)
  have byte : (b.toNat / 16 * 16 + b.toNat % 16).toUInt8 = b := by
    rw [Nat.div_add_mod']
    exact UInt8.ofNat_toNat
  simp only [hexByte, List.cons_append, List.nil_append, readHex, hi, lo, Option.bind_eq_bind,
    Option.bind_some, byte]
  cases readHex rest <;> rfl

theorem readHex_hexBytes (bs : List UInt8) (rest : List Char) :
    readHex (hexBytes bs ++ rest) = (readHex rest).map (bs ++ ·) := by
  induction bs with
  | nil => simp [hexBytes]
  | cons b bs ih =>
    rw [hexBytes, List.flatMap_cons, List.append_assoc, readHex_hexByte, ← hexBytes, ih,
      Option.map_map]
    rfl

theorem length_hexBytes (bs : List UInt8) : (hexBytes bs).length = 2 * bs.length := by
  simp [hexBytes, hexByte, List.length_flatMap, mul_comm]

/-! ### Hyphens -/

/-- Hyphens between the groups are passed over. -/
theorem readHyphenated_groups {a b c d e : List Char} (ha : a.length = 8) (hb : b.length = 4)
    (hc : c.length = 4) (hd : d.length = 4) (he : e.length = 12) :
    readHyphenated (a ++ '-' :: b ++ '-' :: c ++ '-' :: d ++ '-' :: e) =
      readSimple (a ++ b ++ c ++ d ++ e) := by
  obtain ⟨cs, eq⟩ : ∃ cs, cs = a ++ '-' :: b ++ '-' :: c ++ '-' :: d ++ '-' :: e := ⟨_, rfl⟩
  have marks : cs.length = 36 ∧ cs[8]? = some '-' ∧ cs[13]? = some '-' ∧ cs[18]? = some '-' ∧
      cs[23]? = some '-' := by
    simp [eq, ha, hb, hc, hd, he]
  rw [← eq, readHyphenated, if_pos marks, eq]
  simp (disch := omega) [List.drop_append, List.drop_of_length_le, ha, hb, hc, hd]

theorem readHex_hyphen (bs : List UInt8) (rest : List Char) :
    readHex (hexBytes bs ++ '-' :: rest) = none := by
  have hyphen : readHex ('-' :: rest) = none := by
    cases rest with
    | nil => rfl
    | cons c rest => rfl
  rw [readHex_hexBytes, hyphen]
  rfl

/-- The groups of bytes, one after another, are all the bytes. -/
theorem hexBytes_groups (bs : List UInt8) : hexBytes (bs.take 4) ++ hexBytes ((bs.drop 4).take 2) ++
    hexBytes ((bs.drop 6).take 2) ++ hexBytes ((bs.drop 8).take 2) ++ hexBytes (bs.drop 10) =
      hexBytes bs := by
  have join : bs.take 4 ++ ((bs.drop 4).take 2 ++ ((bs.drop 6).take 2 ++ ((bs.drop 8).take 2 ++
      bs.drop 10))) = bs := by
    have step : ∀ n, (bs.drop n).take 2 ++ bs.drop (n + 2) = bs.drop n := by
      intro n
      rw [← List.drop_drop, List.take_append_drop]
    rw [step, step, step, List.take_append_drop]
  simp only [hexBytes, List.append_assoc, ← List.flatMap_append, join]

theorem readHyphenated_toChars (id : Uuid) : readHyphenated id.toChars = some id := by
  have size := id.size_eq
  rw [toChars, readHyphenated_groups, hexBytes_groups, readSimple,
    ← List.append_nil (hexBytes id.bytes), readHex_hexBytes]
  · simp [readHex, ofBytes?, size]
  all_goals simp [length_hexBytes, size]

/-- The written form is not read as digits without hyphens. -/
theorem readSimple_toChars (id : Uuid) : readSimple id.toChars = none := by
  rw [readSimple, toChars]
  simp only [List.append_assoc, List.cons_append]
  rw [readHex_hyphen]
  rfl

theorem ofChars?_toChars (id : Uuid) : ofChars? id.toChars = some id := by
  rw [ofChars?, readSimple_toChars, readHyphenated_toChars]

theorem ofText?_toText (id : Uuid) : ofText? id.toText = some id := by
  rw [ofText?, toText, String.toList_ofList, ofChars?_toChars]

theorem toText_inj {a b : Uuid} : a.toText = b.toText ↔ a = b := by
  constructor
  · intro h
    have same := ofText?_toText a
    rw [h, ofText?_toText] at same
    exact (Option.some.inj same).symm
  · exact congrArg toText

end Cascade.Uuid
