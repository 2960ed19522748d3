import Cascade.Text.Blank
import Mathlib.Data.List.DropRight

/-!
# Small letters and the blanks around them

Making the letters of a text small touches no blank, so it makes no difference whether the blanks
around a text are dropped before or after it (`trim_lower`).  A text that differs from one without
blanks around it in the case of letters only has none either (`trim_eq_self_of_lower_eq`).
`trimChars_eq_iff` says what is left of a text: what stands between blanks and has none at its ends.
-/

namespace Cascade.Text

variable {c : Char} {s t : String}

/-! ### Letters -/

theorem toNat_toLower (c : Char) :
    c.toLower.toNat = if 65 ≤ c.toNat ∧ c.toNat ≤ 90 then c.toNat + 32 else c.toNat := by
  have bounds : (c.val ≥ 'A'.val ∧ c.val ≤ 'Z'.val) ↔ 65 ≤ c.toNat ∧ c.toNat ≤ 90 := Iff.rfl
  unfold Char.toLower
  by_cases h : c.val ≥ 'A'.val ∧ c.val ≤ 'Z'.val
  · rw [dif_pos h, if_pos (bounds.1 h)]
    show (c.val + ('a'.val - 'A'.val)).toNat = c.val.toNat + 32
    have small : c.val.toNat ≤ 90 := h.2
    rw [UInt32.toNat_add]
    show (c.val.toNat + 32) % 2 ^ 32 = c.val.toNat + 32
    omega
  · rw [dif_neg h, if_neg fun k ↦ h (bounds.2 k)]

theorem toLower_toLower (c : Char) : c.toLower.toLower = c.toLower := by
  apply Char.toNat_inj.1
  rw [toNat_toLower, toNat_toLower]
  split
  · exact if_neg (by omega)
  · rfl

theorem isBlank_toLower (c : Char) : isBlank c.toLower = isBlank c := by
  unfold isBlank
  rw [toNat_toLower]
  by_cases h : 65 ≤ c.toNat ∧ c.toNat ≤ 90
  · rw [if_pos h, Bool.eq_iff_iff]
    simp only [Bool.or_eq_true, Bool.and_eq_true, decide_eq_true_eq, beq_iff_eq]
    omega
  · rw [if_neg h]

theorem toLower_of_isBlank (blank : isBlank c = true) : c.toLower = c := by
  apply Char.toNat_inj.1
  rw [toNat_toLower, if_neg]
  simp only [isBlank, Bool.or_eq_true, Bool.and_eq_true, decide_eq_true_eq, beq_iff_eq] at blank
  omega

theorem map_toLower_eq_self_iff {cs : List Char} :
    cs.map Char.toLower = cs ↔ ∀ c ∈ cs, c.toLower = c := by
  rw [← List.map_inj_left (g := fun c ↦ c), List.map_id']

/-! ### Texts -/

theorem toList_lower (s : String) : (lower s).toList = s.toList.map Char.toLower :=
  String.toList_map

@[simp] theorem lower_lower (s : String) : lower (lower s) = lower s := by
  apply String.ext
  rw [toList_lower, toList_lower, List.map_map]
  exact List.map_congr_left fun c _ ↦ toLower_toLower c

theorem sameLetters_iff : sameLetters s t = true ↔ lower s = lower t := beq_iff_eq

theorem trimChars_map (cs : List Char) :
    trimChars (cs.map Char.toLower) = (trimChars cs).map Char.toLower := by
  have blank : isBlank ∘ Char.toLower = isBlank := funext isBlank_toLower
  simp only [trimChars, trimEnd, trimStart, List.dropWhile_map, ← List.map_reverse, blank]

/-- Blanks around a text can be dropped before or after its letters are made small. -/
theorem trim_lower (s : String) : trim (lower s) = lower (trim s) := by
  apply String.ext
  rw [trim, toList_lower, toList_lower, trim, String.toList_ofList, String.toList_ofList,
    trimChars_map]

theorem trim_trim (s : String) : trim (trim s) = trim s := by
  have chars : ∀ cs, trimChars (trimChars cs) = trimChars cs := by
    intro cs
    have start : trimStart (trimChars cs) = trimChars cs := by
      obtain ⟨rest, split⟩ : trimChars cs <+: trimStart cs := List.rdropWhile_prefix isBlank _
      cases kept : trimChars cs with
      | nil => rfl
      | cons c kept' =>
        have first := List.head?_dropWhile_not isBlank cs
        rw [← trimStart, ← split, kept] at first
        rw [trimStart, List.dropWhile_cons_of_neg]
        exact ne_true_of_eq_false first
    rw [trimChars, start]
    exact List.rdropWhile_idempotent isBlank _
  rw [trim, trim, String.toList_ofList, chars]

theorem trimChars_sublist (cs : List Char) : (trimChars cs).Sublist cs := by
  have start : (trimStart cs).Sublist cs := List.dropWhile_sublist _
  have stop : (trimEnd (trimStart cs)).Sublist (trimStart cs) := by
    rw [trimEnd, ← List.reverse_sublist, List.reverse_reverse]
    exact List.dropWhile_sublist _
  exact stop.trans start

/-- A character of a text is a blank or is left when the blanks around the text are dropped. -/
theorem isBlank_or_mem_trimChars {cs : List Char} (h : c ∈ cs) :
    isBlank c = true ∨ c ∈ trimChars cs := by
  have drop : ∀ {l : List Char}, c ∈ l → isBlank c = true ∨ c ∈ l.dropWhile isBlank := by
    intro l mem
    rw [← List.takeWhile_append_dropWhile (p := isBlank) (l := l)] at mem
    exact (List.mem_append.1 mem).imp_left List.mem_takeWhile_imp
  rcases drop h with blank | kept
  · exact .inl blank
  · refine (drop (List.mem_reverse.2 kept)).imp_right fun left ↦ ?_
    exact List.mem_reverse.2 left

/-- A text is what is left of it with blanks around it. -/
theorem exists_trimChars_surrounded (cs : List Char) : ∃ before after : List Char,
    (∀ c ∈ before, isBlank c = true) ∧ (∀ c ∈ after, isBlank c = true) ∧
      cs = before ++ trimChars cs ++ after := by
  have start : cs.takeWhile isBlank ++ trimStart cs = cs := List.takeWhile_append_dropWhile
  have stop :
      trimChars cs ++ ((trimStart cs).reverse.takeWhile isBlank).reverse = trimStart cs := by
    rw [trimChars, trimEnd, ← List.reverse_append, List.takeWhile_append_dropWhile,
      List.reverse_reverse]
  refine ⟨cs.takeWhile isBlank, ((trimStart cs).reverse.takeWhile isBlank).reverse, ?_, ?_, ?_⟩
  · exact fun c mem ↦ List.mem_takeWhile_imp mem
  · exact fun c mem ↦ List.mem_takeWhile_imp (List.mem_reverse.1 mem)
  · rw [List.append_assoc, stop, start]

/-- Blanks put around a text make no difference to what is left of it. -/
theorem trimChars_surrounded {before after : List Char} (blank : ∀ c ∈ before, isBlank c = true)
    (blank' : ∀ c ∈ after, isBlank c = true) (cs : List Char) :
    trimChars (before ++ cs ++ after) = trimChars cs := by
  have stop : ∀ l, trimEnd (l ++ after) = trimEnd l := fun l ↦ by
    rw [trimEnd, List.reverse_append, List.dropWhile_append_of_pos, ← trimEnd]
    exact fun c mem ↦ blank' c (List.mem_reverse.1 mem)
  have start : trimStart (before ++ cs ++ after) = trimStart (cs ++ after) := by
    rw [List.append_assoc]
    exact List.dropWhile_append_of_pos blank
  rw [trimChars, start, trimStart, List.dropWhile_append]
  split
  · rename_i none_left
    have cs_blank : trimStart cs = [] := List.isEmpty_iff.1 none_left
    have after_blank : after.dropWhile isBlank = [] := List.dropWhile_eq_nil_iff.2 blank'
    rw [trimChars, cs_blank, after_blank]
  · exact stop _

/-- What is left of a text stands between blanks, and neither starts nor ends with one. -/
theorem trimChars_eq_iff {cs kept : List Char} (hd : ∀ c, kept.head? = some c → isBlank c = false)
    (tl : ∀ c, kept.getLast? = some c → isBlank c = false) :
    trimChars cs = kept ↔ ∃ before after : List Char, (∀ c ∈ before, isBlank c = true) ∧
      (∀ c ∈ after, isBlank c = true) ∧ cs = before ++ kept ++ after := by
  constructor
  · rintro rfl
    exact exists_trimChars_surrounded cs
  · rintro ⟨before, after, blank, blank', rfl⟩
    rw [trimChars_surrounded blank blank', trimChars_eq_self hd tl]

/-- A text is in small letters if it is without the blanks around it. -/
theorem lower_eq_self_of_trim (small : lower (trim s) = trim s) : lower s = s := by
  have letters : ∀ c ∈ trimChars s.toList, c.toLower = c := by
    have chars := congrArg String.toList small
    rw [toList_lower, trim, String.toList_ofList] at chars
    exact fun c mem ↦ map_toLower_eq_self_iff.1 chars c mem
  have all : ∀ c ∈ s.toList, c.toLower = c := by
    intro c mem
    rcases isBlank_or_mem_trimChars mem with blank | kept
    · exact toLower_of_isBlank blank
    · exact letters c kept
  apply String.ext
  rw [toList_lower]
  exact map_toLower_eq_self_iff.2 all

/-- What has no blanks around it has none in other letters. -/
theorem trim_eq_self_of_lower_eq (same : lower s = lower t) (trimmed : trim t = t) :
    trim s = s := by
  have lengths : ∀ u : String, (lower u).toList.length = u.toList.length := fun u ↦ by
    rw [toList_lower, List.length_map]
  have small : lower (trim s) = lower s := by
    rw [← trim_lower, same, trim_lower, trimmed]
  apply String.ext
  have length : (trim s).toList.length = s.toList.length := by
    rw [← lengths (trim s), small, lengths]
  rw [trim, String.toList_ofList] at length ⊢
  exact (trimChars_sublist _).eq_of_length length

end Cascade.Text
