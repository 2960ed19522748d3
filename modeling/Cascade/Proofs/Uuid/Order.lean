import Cascade.Proofs.Uuid
import Cascade.Signal.Basic

/-!
# Ids in the order of their texts

The small hexadecimal digits stand in the order of their numbers, so two bytes are ordered as their
digits are (`hexByte_lt_iff`), and so are bytes one after another (`hexBytes_lt_iff`).  The hyphens
stand at the same places of every text and decide nothing (`group_lt_iff`).

So ids are ordered as their texts are (`toText_lt_iff`), and it makes no difference whether ids or
their texts are sorted: `ordersAsTexts`.
-/

namespace Cascade.Uuid

/-! ### Lists of one length -/

section

variable {α : Type*} [LT α] {l m s t : List α}

/-- The front parts decide, and where they are the same the rest does. -/
theorem append_lt_append_iff (same : l.length = m.length) :
    l ++ s < m ++ t ↔ l < m ∨ l = m ∧ s < t := by
  induction l generalizing m with
  | nil =>
    obtain rfl := List.length_eq_zero_iff.1 same.symm
    simp
  | cons a l ih =>
    cases m with
    | nil => cases same
    | cons b m =>
      rw [List.cons_append, List.cons_append, List.cons_lt_cons_iff, List.cons_lt_cons_iff,
        ih (Nat.succ.inj same), List.cons.injEq]
      tauto

theorem lt_iff_take_drop (n : ℕ) (same : l.length = m.length) :
    l < m ↔ l.take n < m.take n ∨ l.take n = m.take n ∧ l.drop n < m.drop n := by
  have front : (l.take n).length = (m.take n).length := by
    rw [List.length_take, List.length_take, same]
  rw [← append_lt_append_iff front, List.take_append_drop, List.take_append_drop]

end

/-! ### Digits -/

theorem hexDigit_lt_iff {m n : ℕ} (hm : m < 16) (hn : n < 16) :
    hexDigit m < hexDigit n ↔ m < n := by
  have all : ∀ m n : Fin 16, hexDigit m < hexDigit n ↔ m.val < n.val := by decide
  exact all ⟨m, hm⟩ ⟨n, hn⟩

theorem hexDigit_inj {m n : ℕ} (hm : m < 16) (hn : n < 16) :
    hexDigit m = hexDigit n ↔ m = n := by
  constructor
  · intro same
    have read := hexValue?_hexDigit hm
    rw [same, hexValue?_hexDigit hn] at read
    exact (Option.some.inj read).symm
  · exact congrArg hexDigit

/-- Bytes are ordered as their two digits are. -/
theorem hexByte_lt_iff {a b : UInt8} : hexByte a < hexByte b ↔ a < b := by
  have := a.toNat_lt
  have := b.toNat_lt
  rw [hexByte, hexByte, List.cons_lt_cons_iff, List.cons_lt_cons_iff,
    hexDigit_lt_iff (by omega) (by omega), hexDigit_inj (by omega) (by omega),
    hexDigit_lt_iff (by omega) (by omega), UInt8.lt_iff_toNat_lt]
  simp only [List.not_lt_nil, and_false, or_false]
  omega

theorem hexBytes_inj {as bs : List UInt8} : hexBytes as = hexBytes bs ↔ as = bs := by
  constructor
  · intro same
    have read : ∀ l, readHex (hexBytes l) = some l := by
      intro l
      have := readHex_hexBytes l []
      rwa [List.append_nil, readHex, Option.map_some, List.append_nil] at this
    have := read as
    rw [same, read] at this
    exact (Option.some.inj this).symm
  · exact congrArg hexBytes

/-- As many bytes as others are ordered as the digits are. -/
theorem hexBytes_lt_iff {as bs : List UInt8} (same : as.length = bs.length) :
    hexBytes as < hexBytes bs ↔ as < bs := by
  induction as generalizing bs with
  | nil =>
    obtain rfl := List.length_eq_zero_iff.1 same.symm
    simp
  | cons a as ih =>
    cases bs with
    | nil => cases same
    | cons b bs =>
      have one : hexByte a = hexByte b ↔ a = b := by
        have : hexBytes [a] = hexBytes [b] ↔ [a] = [b] := hexBytes_inj
        simpa [hexBytes] using this
      rw [hexBytes, hexBytes, List.flatMap_cons, List.flatMap_cons,
        append_lt_append_iff (l := hexByte a) (m := hexByte b) rfl, hexByte_lt_iff, one,
        ← hexBytes, ← hexBytes, ih (Nat.succ.inj same), List.cons_lt_cons_iff]

/-! ### Groups of digits -/

/-- A hyphen behind groups of one length decides nothing. -/
theorem group_lt_iff {as bs : List UInt8} {s t : List Char} (same : as.length = bs.length) :
    hexBytes as ++ '-' :: s < hexBytes bs ++ '-' :: t ↔ as < bs ∨ as = bs ∧ s < t := by
  have digits : (hexBytes as).length = (hexBytes bs).length := by
    rw [length_hexBytes, length_hexBytes, same]
  rw [append_lt_append_iff digits, hexBytes_lt_iff same, hexBytes_inj, List.cons_lt_cons_iff]
  simp

theorem toChars_lt_iff {a b : Uuid} : a.toChars < b.toChars ↔ a < b := by
  have size : a.bytes.length = b.bytes.length := a.size_eq.trans b.size_eq.symm
  have first : (a.bytes.take 4).length = (b.bytes.take 4).length := by
    rw [List.length_take, List.length_take, size]
  have rest : ∀ n, (a.bytes.drop n).length = (b.bytes.drop n).length := fun n ↦ by
    rw [List.length_drop, List.length_drop, size]
  have pair : ∀ n, ((a.bytes.drop n).take 2).length = ((b.bytes.drop n).take 2).length :=
    fun n ↦ by rw [List.length_take, List.length_take, rest]
  have bytes : ∀ n, a.bytes.drop n < b.bytes.drop n ↔
      (a.bytes.drop n).take 2 < (b.bytes.drop n).take 2 ∨
      (a.bytes.drop n).take 2 = (b.bytes.drop n).take 2 ∧
        a.bytes.drop (n + 2) < b.bytes.drop (n + 2) := fun n ↦ by
    rw [lt_iff_take_drop 2 (rest n), List.drop_drop, List.drop_drop]
  rw [lt_def, lt_iff_take_drop 4 size, bytes, bytes, bytes]
  simp only [toChars, List.append_assoc, List.cons_append]
  rw [group_lt_iff first, group_lt_iff (pair 4), group_lt_iff (pair 6), group_lt_iff (pair 8),
    hexBytes_lt_iff (rest 10)]

/-- Ids are ordered as their texts are. -/
theorem toText_lt_iff {a b : Uuid} : a.toText < b.toText ↔ a < b := by
  rw [String.lt_iff_toList_lt, toText, toText, String.toList_ofList, String.toList_ofList,
    toChars_lt_iff]

/-! ### The written form -/

/-- A byte as two digits to the base sixteen. -/
theorem hexByte_eq (b : UInt8) :
    hexByte b = [Nat.digitChar (b.toNat / 16), Nat.digitChar (b.toNat % 16)] := by
  have all : ∀ n : Fin 16, hexDigit n = Nat.digitChar n := by decide
  have := b.toNat_lt
  rw [hexByte, all ⟨b.toNat / 16, by omega⟩, all ⟨b.toNat % 16, by omega⟩]

/-- Ids in an order are the same as their texts in that order. -/
structure OrdersAsTexts : Prop where
  /-- A text is two small hexadecimal digits for each byte, with hyphens between 4, 2, 2, 2 and 6
  bytes. -/
  written : ∀ id : ComponentId, id.toText.toList =
    ['-'].intercalate (([4, 2, 2, 2, 6].splitLengths id.bytes).map fun group ↦
      group.flatMap fun b ↦ [Nat.digitChar (b.toNat / 16), Nat.digitChar (b.toNat % 16)])
  /-- One id comes before another exactly if its text does. -/
  lt_iff : ∀ a b : ComponentId, a < b ↔ a.toText < b.toText
  /-- The text of an id is read as that id. -/
  read : ∀ id : ComponentId, ofText? id.toText = some id
  /-- Sorted ids have the texts that sorting their texts gives. -/
  sorted : ∀ ids : List ComponentId, (ids.mergeSort fun a b ↦ !(b < a)).map toText =
    (ids.map toText).mergeSort fun s t ↦ !(t < s)
  /-- Only one order of some ids is that of the ids or that of their texts. -/
  arranged : ∀ ids ids' : List ComponentId, ids.Perm ids' →
    ids.Pairwise (fun a b ↦ ¬ b < a) → (ids'.map toText).Pairwise (fun s t ↦ ¬ t < s) → ids = ids'

theorem ordersAsTexts : OrdersAsTexts where
  written id := by
    have last : (id.bytes.drop 10).take 6 = id.bytes.drop 10 := by
      rw [List.take_of_length_le]
      rw [List.length_drop, id.size_eq]
    have digits := funext hexByte_eq
    rw [toText, String.toList_ofList, toChars, ← digits]
    simp [List.splitLengths, List.intercalate, hexBytes, last]
  lt_iff _ _ := toText_lt_iff.symm
  read := ofText?_toText
  sorted ids := by
    refine List.map_mergeSort fun a _ b _ ↦ ?_
    rw [Bool.not_inj_iff, decide_eq_decide, toText_lt_iff]
  arranged ids ids' perm ascending texts := by
    have ascending' : ids'.Pairwise fun a b ↦ ¬ b < a := by
      rw [List.pairwise_map] at texts
      exact texts.imp fun h ↦ toText_lt_iff.not.1 h
    refine perm.eq_of_pairwise (fun a b _ _ ab ba ↦ ?_) ascending ascending'
    by_contra ne
    exact (Uuid.lt_or_lt_of_ne ne).elim ba ab

end Cascade.Uuid
