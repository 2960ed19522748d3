/-!
# Blank characters and ASCII case

Names, severities, durations and keys are compared after dropping the blank characters around
them.  Blank means the Unicode property `White_Space`; letters are folded in the ASCII range only,
so `É` and `é` stay different.

`trimChars_eq_self` says that text without blanks at its ends is left alone.
-/

namespace Cascade.Text

/-- The Unicode property `White_Space`. -/
def isBlank (c : Char) : Bool :=
  let n := c.toNat
  (9 ≤ n && n ≤ 13) || n == 0x20 || n == 0x85 || n == 0xA0 || n == 0x1680 ||
    (0x2000 ≤ n && n ≤ 0x200A) || n == 0x2028 || n == 0x2029 || n == 0x202F || n == 0x205F ||
    n == 0x3000

def trimStart (cs : List Char) : List Char := cs.dropWhile isBlank

def trimEnd (cs : List Char) : List Char := (cs.reverse.dropWhile isBlank).reverse

def trimChars (cs : List Char) : List Char := trimEnd (trimStart cs)

def trim (s : String) : String := String.ofList (trimChars s.toList)

def isBlankText (s : String) : Bool := s.toList.all isBlank

/-- Text that neither starts nor ends with a blank is its own trimmed form. -/
theorem trimChars_eq_self {cs : List Char} (hd : ∀ c, cs.head? = some c → isBlank c = false)
    (tl : ∀ c, cs.getLast? = some c → isBlank c = false) : trimChars cs = cs := by
  have start : trimStart cs = cs := by
    cases cs with
    | nil => rfl
    | cons c rest => simp [trimStart, hd c rfl]
  have stop : trimEnd cs = cs := by
    rw [trimEnd]
    cases h : cs.reverse with
    | nil => simpa using h.symm
    | cons c rest =>
      have last : cs.getLast? = some c := by
        rw [← List.head?_reverse, h]; rfl
      rw [List.dropWhile_cons, tl c last]
      simpa using (congrArg List.reverse h).symm
  rw [trimChars, start, stop]

/-- A text with the letters `A` to `Z` made small. -/
def lower (s : String) : String := s.map Char.toLower

/-- A text with the letters `a` to `z` made capital. -/
def upper (s : String) : String := s.map Char.toUpper

/-- Two texts that differ at most in the case of ASCII letters. -/
def sameLetters (s t : String) : Bool := lower s == lower t

/-- What follows the given beginning, if the text begins so. -/
def dropLead? : List Char → List Char → Option (List Char)
  | [], cs => some cs
  | _ :: _, [] => none
  | p :: ps, c :: cs => if p = c then dropLead? ps cs else none

/-- Whether the first text occurs in the second as an unbroken piece. -/
def occursIn (piece : List Char) : List Char → Bool
  | [] => piece.isEmpty
  | c :: cs => piece.isPrefixOf (c :: cs) || occursIn piece cs

end Cascade.Text
