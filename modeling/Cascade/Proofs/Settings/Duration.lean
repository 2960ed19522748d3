import Cascade.Proofs.Text.Word
import Cascade.Settings.Topology

/-!
# The grammar of durations

A text is read from its end, by the first unit that it ends in and by the number before that.  It
may as well be read from its front, by its digits and the unit behind them (`readMillis`): what
stands before a unit ends in a digit, so no text that has a number ends in two units of which the
wrong one is tried first (`parseMillis_eq_readMillis`).

A duration is spelt with a plus or without, with digits, and with the letters of a unit in either
case (`Spelling`); blanks may stand around it.  The letters of a unit are no digits, so a text is
taken apart in one way only (`Spelling.eq_of_chars_eq`), and reading takes it apart in that way
(`readMillis_chars`).

`readsDurations` says that a text is accepted exactly if it is spelt so and fits into an unsigned
64-bit word, and what it is read as.
-/

namespace Cascade.Settings

open Cascade.Text

/-! ### Units -/

/-- The unit of exactly these small letters. -/
def TimeUnit.ofLetters? (cs : List Char) : Option TimeUnit :=
  tried.find? fun u ↦ u.letters = cs

theorem TimeUnit.ofLetters?_letters (u : TimeUnit) : ofLetters? u.letters = some u := by
  cases u <;> rfl

theorem TimeUnit.ofLetters?_eq_some_iff {cs : List Char} {u : TimeUnit} :
    ofLetters? cs = some u ↔ u.letters = cs := by
  constructor
  · intro found
    have spelt := List.find?_some found
    exact of_decide_eq_true spelt
  · rintro rfl
    exact ofLetters?_letters u

/-- The units of a duration: the letters of each and its milliseconds. -/
def unitTable : List (List Char × ℕ) :=
  [(['m', 's'], 1), (['s'], 1000), (['m'], 60 * 1000), (['h'], 60 * 60 * 1000)]

theorem mem_unitTable {cs : List Char} {k : ℕ} :
    (cs, k) ∈ unitTable ↔ ∃ u : TimeUnit, u.letters = cs ∧ u.millis = k := by
  constructor
  · intro mem
    simp only [unitTable, List.mem_cons, Prod.mk.injEq, List.not_mem_nil, or_false] at mem
    rcases mem with ⟨rfl, rfl⟩ | ⟨rfl, rfl⟩ | ⟨rfl, rfl⟩ | ⟨rfl, rfl⟩
    · exact ⟨.millisecond, rfl, rfl⟩
    · exact ⟨.second, rfl, rfl⟩
    · exact ⟨.minute, rfl, rfl⟩
    · exact ⟨.hour, rfl, rfl⟩
  · rintro ⟨u, rfl, rfl⟩
    cases u <;> simp [unitTable, TimeUnit.letters, TimeUnit.millis]

theorem ne_nil_of_mem_unitTable {cs : List Char} {k : ℕ} (unit : (cs, k) ∈ unitTable) :
    cs ≠ [] := by
  obtain ⟨u, rfl, -⟩ := mem_unitTable.1 unit
  cases u <;> simp [TimeUnit.letters]

theorem map_toLower_of_mem_unitTable {cs : List Char} {k : ℕ} (unit : (cs, k) ∈ unitTable) :
    cs.map Char.toLower = cs := by
  obtain ⟨u, rfl, -⟩ := mem_unitTable.1 unit
  cases u <;> rfl

theorem plain_of_mem_unitTable {cs : List Char} {k : ℕ} (unit : (cs, k) ∈ unitTable) :
    ∀ c ∈ cs, isDigit c = false ∧ isBlank c = false := by
  obtain ⟨u, rfl, -⟩ := mem_unitTable.1 unit
  cases u <;> simp [TimeUnit.letters, isDigit, isBlank]

/-! ### Reading from the front -/

/-- The grammar of a duration in small letters: a plus or none, digits, and what is left is a
unit. -/
def readMillis (cs : List Char) : Option ℕ := do
  let written := dropPlus cs
  let n ← readNumber (written.takeWhile isDigit)
  let unit ← TimeUnit.ofLetters? (written.dropWhile isDigit)
  if n ≤ wordMax ∧ n * unit.millis ≤ wordMax then some (n * unit.millis) else none

theorem stripSuffix?_eq_some_iff {ending cs front : List Char} :
    stripSuffix? ending cs = some front ↔ cs = front ++ ending := by
  rw [stripSuffix?, Option.ite_none_right_eq_some, List.isSuffixOf_iff_suffix, Option.some.injEq]
  constructor
  · rintro ⟨⟨before, rfl⟩, rfl⟩
    simp
  · rintro rfl
    exact ⟨List.suffix_append front ending, by simp⟩

theorem splitUnit?_eq_some {cs front : List Char} {u : TimeUnit}
    (split : splitUnit? cs = some (front, u)) : cs = front ++ u.letters := by
  obtain ⟨v, -, found⟩ := List.exists_of_findSome?_eq_some split
  obtain ⟨before, strip, eq⟩ := Option.map_eq_some_iff.1 found
  cases eq
  exact stripSuffix?_eq_some_iff.1 strip

theorem stripSuffix?_eq_none_iff {ending cs : List Char} :
    stripSuffix? ending cs = none ↔ ¬ ending <:+ cs := by
  rw [Option.eq_none_iff_forall_ne_some]
  constructor
  · rintro none ⟨front, eq⟩
    exact none front (stripSuffix?_eq_some_iff.2 eq.symm)
  · intro none front strip
    exact none ⟨front, (stripSuffix?_eq_some_iff.1 strip).symm⟩

/-- What a number with a unit ends in.  As a number does not end in a letter, seconds do not end in
the letters of milliseconds. -/
theorem eq_of_endsIn {front : List Char} (number : ∀ c ∈ front.getLast?, isDigit c = true)
    {u v : TimeUnit} (ends : v.letters <:+ front ++ u.letters) :
    v = u ∨ v = .second ∧ u = .millisecond := by
  obtain ⟨before, eq⟩ := ends
  have last := congrArg List.getLast? eq
  cases u <;> cases v <;> simp [TimeUnit.letters] at last ⊢
  -- a text of seconds that ends in the letters of milliseconds
  have front_eq : before ++ ['m'] = front :=
    List.append_cancel_right ((List.append_assoc before ['m'] ['s']).trans eq)
  cases number 'm' (by simp [← front_eq])

/-- A unit behind a number is the one that is found. -/
theorem splitUnit?_append {front : List Char} (number : ∀ c ∈ front.getLast?, isDigit c = true)
    (u : TimeUnit) : splitUnit? (front ++ u.letters) = some (front, u) := by
  have own (u : TimeUnit) : stripSuffix? u.letters (front ++ u.letters) = some front :=
    stripSuffix?_eq_some_iff.2 rfl
  have other {u v : TimeUnit} (no : ¬ (v = u ∨ v = .second ∧ u = .millisecond)) :
      stripSuffix? v.letters (front ++ u.letters) = none :=
    stripSuffix?_eq_none_iff.2 fun ends ↦ no (eq_of_endsIn number ends)
  rw [splitUnit?, TimeUnit.tried]
  cases u with
  | millisecond => simp [own]
  | second => simp [own, other]
  | minute => simp [own, other]
  | hour => simp [own, other]

theorem parseMillis_eq_some_iff {cs : List Char} {n : ℕ} : parseMillis cs = some n ↔
    ∃ front u m, cs = front ++ TimeUnit.letters u ∧ readNumber (dropPlus front) = some m ∧
      m ≤ wordMax ∧ m * u.millis = n ∧ n ≤ wordMax := by
  simp only [parseMillis, Option.bind_eq_bind, Option.bind_eq_some_iff, Prod.exists,
    word?_eq_some_iff, readWord_eq_some_iff]
  constructor
  · rintro ⟨front, u, split, m, ⟨number, fits⟩, product⟩
    exact ⟨front, u, m, splitUnit?_eq_some split, number, fits, product⟩
  · rintro ⟨front, u, m, rfl, number, fits, product⟩
    have digit : ∀ c ∈ front.getLast?, isDigit c = true := by
      obtain ⟨ne, digits, -⟩ := readNumber_eq_some_iff.1 number
      obtain ⟨plus, split⟩ := exists_plus front
      intro c last
      rw [split, List.getLast?_append_of_ne_nil _ ne] at last
      exact digits c (List.mem_of_getLast? last)
    exact ⟨front, u, splitUnit?_append digit u, m, ⟨number, fits⟩, product⟩

theorem readMillis_eq_some_iff {cs : List Char} {n : ℕ} : readMillis cs = some n ↔
    ∃ front u m, cs = front ++ TimeUnit.letters u ∧ readNumber (dropPlus front) = some m ∧
      m ≤ wordMax ∧ m * u.millis = n ∧ n ≤ wordMax := by
  simp only [readMillis, Option.bind_eq_bind, Option.bind_eq_some_iff,
    Option.ite_none_right_eq_some, Option.some.injEq, TimeUnit.ofLetters?_eq_some_iff]
  constructor
  · rintro ⟨m, number, u, spelt, ⟨fits, product⟩, rfl⟩
    obtain ⟨-, digits, -⟩ := readNumber_eq_some_iff.1 number
    obtain ⟨plus, split⟩ := exists_plus cs
    refine ⟨(if plus then ['+'] else []) ++ (dropPlus cs).takeWhile isDigit, u, m, ?_, ?_, fits,
      rfl, product⟩
    · rw [spelt, List.append_assoc, List.takeWhile_append_dropWhile, ← split]
    · cases plus with
      | true => exact number
      | false =>
        rw [if_neg Bool.false_ne_true, List.nil_append, dropPlus_of_digits digits]
        exact number
  · rintro ⟨front, u, m, rfl, number, fits, rfl, product⟩
    obtain ⟨ne, digits, -⟩ := readNumber_eq_some_iff.1 number
    have front_ne : front ≠ [] := by
      rintro rfl
      exact ne rfl
    have plain (c : Char) (mem : c ∈ u.letters) : isDigit c = false :=
      (plain_of_mem_unitTable (mem_unitTable.2 ⟨u, rfl, rfl⟩) c mem).1
    rw [dropPlus_append front_ne, takeWhile_digits_append digits plain,
      dropWhile_digits_append digits plain]
    exact ⟨m, number, u, rfl, ⟨fits, product⟩, rfl⟩

/-- Reading a text from its end comes to the grammar. -/
theorem parseMillis_eq_readMillis (cs : List Char) : parseMillis cs = readMillis cs :=
  Option.ext fun _ ↦ parseMillis_eq_some_iff.trans readMillis_eq_some_iff.symm

/-! ### Spellings -/

/-- What a duration is spelt with. -/
@[ext] structure Spelling where
  plus : Bool
  digits : List Char
  letters : List Char
  /-- The milliseconds of the unit. -/
  worth : ℕ
  digits_ne_nil : digits ≠ []
  isDigit_of_mem : ∀ c ∈ digits, c.isDigit = true
  /-- The letters are those of the unit, in either case. -/
  unit : (letters.map Char.toLower, worth) ∈ unitTable

namespace Spelling

variable {s t : Spelling} {raw : String} {cs : List Char} {n : ℕ}

def chars (s : Spelling) : List Char := (if s.plus then ['+'] else []) ++ (s.digits ++ s.letters)

def number (s : Spelling) : ℕ := Nat.ofDigitChars 10 s.digits 0

/-- The number times the milliseconds of the unit. -/
def millis (s : Spelling) : ℕ := s.number * s.worth

/-- Neither the number nor the milliseconds exceed an unsigned 64-bit word. -/
def Fits (s : Spelling) : Prop := s.number < 2 ^ 64 ∧ s.millis < 2 ^ 64

/-- A text is spelt so, blanks around it aside. -/
def Spells (s : Spelling) (raw : String) : Prop :=
  ∃ before after : List Char, (∀ c ∈ before, isBlank c = true) ∧
    (∀ c ∈ after, isBlank c = true) ∧ raw.toList = before ++ s.chars ++ after

theorem digit_of_mem (s : Spelling) : ∀ c ∈ s.digits, isDigit c = true :=
  fun c mem ↦ (isDigit_eq c).trans (s.isDigit_of_mem c mem)

theorem letters_ne_nil (s : Spelling) : s.letters ≠ [] :=
  fun none ↦ ne_nil_of_mem_unitTable s.unit (by rw [none, List.map_nil])

theorem plain_of_mem_letters (s : Spelling) :
    ∀ c ∈ s.letters, isDigit c = false ∧ isBlank c = false := by
  intro c mem
  have plain := plain_of_mem_unitTable s.unit _ (List.mem_map_of_mem mem)
  rwa [isDigit_toLower, isBlank_toLower] at plain

/-! ### Taking a spelling apart -/

theorem dropPlus_chars (s : Spelling) : dropPlus s.chars = s.digits ++ s.letters := by
  rw [chars]
  split
  · rfl
  · rw [List.nil_append, dropPlus_append s.digits_ne_nil, dropPlus_of_digits s.digit_of_mem]

theorem takeWhile_chars (s : Spelling) : (dropPlus s.chars).takeWhile isDigit = s.digits := by
  rw [dropPlus_chars, takeWhile_digits_append s.digit_of_mem fun c mem ↦
    (s.plain_of_mem_letters c mem).1]

theorem dropWhile_chars (s : Spelling) : (dropPlus s.chars).dropWhile isDigit = s.letters := by
  rw [dropPlus_chars, dropWhile_digits_append s.digit_of_mem fun c mem ↦
    (s.plain_of_mem_letters c mem).1]

/-- Characters are spelt in one way only. -/
theorem eq_of_chars_eq (same : s.chars = t.chars) : s = t := by
  have digits : s.digits = t.digits := by
    rw [← s.takeWhile_chars, same, t.takeWhile_chars]
  have letters : s.letters = t.letters := by
    rw [← s.dropWhile_chars, same, t.dropWhile_chars]
  have plus : s.plus = t.plus := by
    rw [chars, chars, digits, letters] at same
    have front := List.append_cancel_right same
    cases hs : s.plus <;> cases ht : t.plus <;> simp_all
  have worth : s.worth = t.worth := by
    obtain ⟨u, spelt, worth⟩ := mem_unitTable.1 s.unit
    obtain ⟨v, spelt', worth'⟩ := mem_unitTable.1 t.unit
    rw [letters, ← spelt', ← TimeUnit.ofLetters?_eq_some_iff, TimeUnit.ofLetters?_letters] at spelt
    rw [← worth, ← worth', Option.some.inj spelt]
  exact Spelling.ext plus digits letters worth

/-! ### Blanks around a spelling -/

/-- A spelling neither starts nor ends with a blank. -/
theorem spells_iff : s.Spells raw ↔ trimChars raw.toList = s.chars := by
  refine (trimChars_eq_iff ?_ ?_).symm
  · intro c first
    rw [chars] at first
    split at first
    · cases first
      rfl
    · rw [List.nil_append, List.head?_append_of_ne_nil _ s.digits_ne_nil] at first
      exact isBlank_of_isDigit (s.digit_of_mem c (List.mem_of_head? first))
  · intro c last
    rw [chars, ← List.append_assoc, List.getLast?_append_of_ne_nil _ s.letters_ne_nil] at last
    exact (s.plain_of_mem_letters c (List.mem_of_getLast? last)).2

/-! ### Reading -/

/-- A spelling in small letters is read as its milliseconds, if it fits. -/
theorem readMillis_chars (s : Spelling) :
    readMillis (s.chars.map Char.toLower) = some n ↔ s.Fits ∧ s.millis = n := by
  obtain ⟨u, spelt, worth⟩ := mem_unitTable.1 s.unit
  have number : readNumber s.digits = some s.number :=
    readNumber_eq_some_iff.2 ⟨s.digits_ne_nil, s.digit_of_mem, rfl⟩
  have unit : TimeUnit.ofLetters? (s.letters.map Char.toLower) = some u :=
    TimeUnit.ofLetters?_eq_some_iff.2 spelt
  have fits : s.Fits ↔ s.number ≤ wordMax ∧ s.number * u.millis ≤ wordMax := by
    rw [Fits, millis, worth, wordMax]
    omega
  rw [readMillis, dropPlus_map, takeWhile_isDigit_map, dropWhile_isDigit_map, takeWhile_chars,
    dropWhile_chars, number, unit, fits, millis, ← worth]
  simp [Option.ite_none_right_eq_some]

/-- What is read is spelt as a duration. -/
theorem exists_chars_eq (read : readMillis (cs.map Char.toLower) = some n) :
    ∃ s : Spelling, s.chars = cs := by
  rw [readMillis, dropPlus_map, takeWhile_isDigit_map, dropWhile_isDigit_map] at read
  simp only [Option.bind_eq_bind, Option.bind_eq_some_iff] at read
  obtain ⟨m, number, u, unit, -⟩ := read
  obtain ⟨ne, digits, -⟩ := readNumber_eq_some_iff.1 number
  obtain ⟨plus, split⟩ := exists_plus cs
  refine ⟨⟨plus, _, _, u.millis, ne, fun c mem ↦ (isDigit_eq c).symm.trans (digits c mem),
    mem_unitTable.2 ⟨u, TimeUnit.ofLetters?_eq_some_iff.1 unit, rfl⟩⟩, ?_⟩
  rw [chars, List.takeWhile_append_dropWhile, ← split]

end Spelling

/-- A text has a duration exactly if it spells one that fits. -/
theorem durationMillis?_eq_some_iff {raw : String} {n : ℕ} : durationMillis? raw = some n ↔
    ∃ s : Spelling, s.Spells raw ∧ s.Fits ∧ s.millis = n := by
  rw [durationMillis?, parseMillis_eq_readMillis]
  constructor
  · intro read
    obtain ⟨s, eq⟩ := Spelling.exists_chars_eq read
    rw [← eq] at read
    exact ⟨s, Spelling.spells_iff.2 eq.symm, s.readMillis_chars.1 read⟩
  · rintro ⟨s, spells, fits⟩
    rw [Spelling.spells_iff.1 spells]
    exact s.readMillis_chars.2 fits

theorem readDuration_eq_ok_iff {raw : String} {n : ℕ} :
    readDuration raw = .ok n ↔ durationMillis? raw = some n := by
  rw [readDuration]
  cases durationMillis? raw <;> simp

/-- A number and a unit, one right behind the other, are a spelling. -/
theorem exists_spelling {n : ℕ} {unit : List Char × ℕ} (mem : unit ∈ unitTable) :
    ∃ s : Spelling, s.Spells (toString n ++ String.ofList unit.1) ∧ s.number = n ∧
      s.worth = unit.2 := by
  have small := map_toLower_of_mem_unitTable mem
  refine ⟨⟨false, Nat.toDigits 10 n, unit.1, unit.2, Nat.toDigits_ne_nil,
    fun c ↦ Nat.isDigit_of_mem_toDigits (by decide) (by decide), small.symm ▸ mem⟩,
    ⟨[], [], by simp, by simp, ?_⟩, ?_, rfl⟩
  · simp [Spelling.chars, Nat.toString_eq_repr, Nat.toList_repr]
  · exact Nat.ofDigitChars_toDigits (by decide) (by decide)

/-- What reading written durations comes to. -/
structure ReadsDurations : Prop where
  /-- A text is accepted exactly if it spells a number and a unit that fit, and is read as the
  number times the milliseconds of the unit. -/
  accepted : ∀ raw n, readDuration raw = .ok n ↔
    ∃ s : Spelling, s.Spells raw ∧ s.Fits ∧ s.millis = n
  /-- Any other text is refused, and given back with the blanks around it. -/
  refused : ∀ raw, (¬ ∃ s : Spelling, s.Spells raw ∧ s.Fits) →
    readDuration raw = .error (.invalidDuration raw)
  /-- Any number with any unit, if they fit, is read back as it was written. -/
  written : ∀ n, ∀ unit ∈ unitTable, n < 2 ^ 64 → n * unit.2 < 2 ^ 64 →
    readDuration (toString n ++ String.ofList unit.1) = .ok (n * unit.2)
  /-- No text is spelt in two ways. -/
  unique : ∀ raw (s t : Spelling), s.Spells raw → t.Spells raw → s = t

theorem readsDurations : ReadsDurations where
  accepted _ _ := readDuration_eq_ok_iff.trans durationMillis?_eq_some_iff
  refused raw none_fits := by
    rw [readDuration]
    cases read : durationMillis? raw with
    | none => rfl
    | some n =>
      obtain ⟨s, spells, fits, -⟩ := durationMillis?_eq_some_iff.1 read
      exact absurd ⟨s, spells, fits⟩ none_fits
  written n unit mem number product := by
    obtain ⟨s, spells, rfl, worth⟩ := exists_spelling (n := n) mem
    rw [← worth] at product ⊢
    rw [readDuration_eq_ok_iff, durationMillis?_eq_some_iff]
    exact ⟨s, spells, ⟨number, product⟩, rfl⟩
  unique raw s t spells spells' :=
    Spelling.eq_of_chars_eq
      ((Spelling.spells_iff.1 spells).symm.trans (Spelling.spells_iff.1 spells'))

/-- A minute is not taken for milliseconds, nor a text of milliseconds for one of seconds. -/
example : durationMillis? "\t+002M " = some 120000 ∧ durationMillis? "2Ms" = some 2 ∧
    durationMillis? "2m s" = none := by
  decide

end Cascade.Settings
