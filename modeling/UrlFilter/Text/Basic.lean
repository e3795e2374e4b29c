/-!
# Texts

A text is the list of its characters, that is of its Unicode scalar values.  Every definition of
the library reads and builds texts in this form, so that its laws can be proved by induction on
the characters.

*Blank* characters are those with the Unicode property `White_Space`.  Trimming takes blanks off
the ends of a text.  Its laws say that what is left neither starts nor ends with a blank
(`head?_trimStart_not_blank`) and that trimming twice is trimming once (`trim_trim`).

The other operations cut a text at a character or test for a piece of it: `splitAtLast` finds the
last occurrence of a character, and `occursIn` decides whether one text is a piece of another.
-/

namespace UrlFilter

/-- A text: the list of its characters. -/
abbrev Text := List Char

namespace Text

/-! ## Blanks and trimming -/

/-- The characters with the property `White_Space`. -/
def isBlank (c : Char) : Bool :=
  let n := c.toNat
  (0x9 ≤ n && n ≤ 0xD) || n == 0x20 || n == 0x85 || n == 0xA0 || n == 0x1680 ||
    (0x2000 ≤ n && n ≤ 0x200A) || n == 0x2028 || n == 0x2029 || n == 0x202F || n == 0x205F ||
    n == 0x3000

/-- A text without the blanks at its start. -/
def trimStart (t : Text) : Text := t.dropWhile isBlank

/-- A text without the blanks at its end. -/
def trimEnd (t : Text) : Text := (t.reverse.dropWhile isBlank).reverse

/-- A text without the blanks at its ends. -/
def trim (t : Text) : Text := trimEnd (trimStart t)

/-- The first character left by `trimStart` is not a blank. -/
theorem head?_trimStart_not_blank {t : Text} {c : Char} (h : (trimStart t).head? = some c) :
    isBlank c = false := by
  induction t with
  | nil => simp [trimStart] at h
  | cons d r ih =>
    by_cases hd : isBlank d
    · exact ih (by simpa [trimStart, hd] using h)
    · have : d = c := by simpa [trimStart, hd] using h
      simpa [this] using hd

/-- Where the first character is not a blank, `trimStart` takes nothing. -/
theorem trimStart_eq_self {t : Text} (h : ∀ c, t.head? = some c → isBlank c = false) :
    trimStart t = t := by
  cases t with
  | nil => rfl
  | cons c r => simp [trimStart, h c rfl]

/-- Where the last character is not a blank, `trimEnd` takes nothing. -/
theorem trimEnd_eq_self {t : Text} (h : ∀ c, t.getLast? = some c → isBlank c = false) :
    trimEnd t = t := by
  have : trimStart t.reverse = t.reverse :=
    trimStart_eq_self fun c hc => h c (by simpa using hc)
  simpa [trimEnd, trimStart] using congrArg List.reverse this

/-- The last character left by `trimEnd` is not a blank. -/
theorem getLast?_trimEnd_not_blank {t : Text} {c : Char} (h : (trimEnd t).getLast? = some c) :
    isBlank c = false :=
  head?_trimStart_not_blank (t := t.reverse) (by simpa [trimEnd, trimStart] using h)

/-- `trimEnd` keeps a piece at the start of the text. -/
theorem trimEnd_isPrefix (t : Text) : trimEnd t <+: t := by
  have h := List.dropWhile_suffix isBlank (l := t.reverse)
  simpa [trimEnd] using List.reverse_prefix.2 h

/-- A trimmed text does not start with a blank. -/
theorem head?_trim_not_blank {t : Text} {c : Char} (h : (trim t).head? = some c) :
    isBlank c = false := by
  obtain ⟨r, hr⟩ := trimEnd_isPrefix (trimStart t)
  apply head?_trimStart_not_blank (t := t)
  rw [← hr]
  cases hl : trimEnd (trimStart t) with
  | nil => simp [trim, hl] at h
  | cons d s => simpa [trim, hl] using h

/-- A trimmed text does not end with a blank. -/
theorem getLast?_trim_not_blank {t : Text} {c : Char} (h : (trim t).getLast? = some c) :
    isBlank c = false := getLast?_trimEnd_not_blank h

/-- Trimming twice is trimming once. -/
@[simp] theorem trim_trim (t : Text) : trim (trim t) = trim t := by
  have h : trimStart (trim t) = trim t := trimStart_eq_self fun _ => head?_trim_not_blank
  rw [trim, h]
  exact trimEnd_eq_self fun _ => getLast?_trim_not_blank

/-! ## Cutting at a character -/

/-- The text before and the text after the last occurrence of a character. -/
def splitAtLast (c : Char) : Text → Option (Text × Text)
  | [] => none
  | d :: r =>
    match splitAtLast c r with
    | some (before, after) => some (d :: before, after)
    | none => if d = c then some ([], r) else none

/-- `splitAtLast` finds nothing exactly where the character does not occur. -/
theorem splitAtLast_eq_none_iff {c : Char} {t : Text} : splitAtLast c t = none ↔ c ∉ t := by
  induction t with
  | nil => simp [splitAtLast]
  | cons d r ih =>
    cases h : splitAtLast c r with
    | some p =>
      have hc : c ∈ r := Decidable.not_not.1 fun hc => by simp [ih.2 hc] at h
      simp [splitAtLast, h, hc]
    | none =>
      have hc : c ∉ r := ih.1 h
      by_cases hd : d = c
      · simp [splitAtLast, h, hd]
      · simp [splitAtLast, h, hd, hc, Ne.symm hd]

/-- An occurrence with none behind it is the one that `splitAtLast` finds. -/
theorem splitAtLast_append {c : Char} (before : Text) {after : Text} (h : c ∉ after) :
    splitAtLast c (before ++ c :: after) = some (before, after) := by
  induction before with
  | nil => simp [splitAtLast, splitAtLast_eq_none_iff.2 h]
  | cons d r ih => simp [splitAtLast, ih]

/-- `splitAtLast` cuts at the one occurrence with none behind it. -/
theorem splitAtLast_eq_some_iff {c : Char} {t before after : Text} :
    splitAtLast c t = some (before, after) ↔ t = before ++ c :: after ∧ c ∉ after := by
  refine ⟨fun h => ?_, fun ⟨ht, hn⟩ => ht ▸ splitAtLast_append before hn⟩
  induction t generalizing before with
  | nil => simp [splitAtLast] at h
  | cons d r ih =>
    rw [splitAtLast] at h
    split at h
    · next b a hr =>
      obtain ⟨rfl, rfl⟩ := by simpa using h
      obtain ⟨rfl, hn⟩ := ih hr
      exact ⟨rfl, hn⟩
    · next hr =>
      split at h
      · next hd =>
        obtain ⟨rfl, rfl⟩ := by simpa using h
        exact ⟨by simp [hd], splitAtLast_eq_none_iff.1 hr⟩
      · simp at h

/-! ## Pieces of a text -/

/-- Whether a text is a piece of another. -/
def occursIn (piece : Text) : Text → Bool
  | [] => piece.isEmpty
  | c :: r => piece.isPrefixOf (c :: r) || occursIn piece r

/-- `occursIn` decides the relation `<:+:` of lists. -/
theorem occursIn_iff {piece t : Text} : occursIn piece t = true ↔ piece <:+: t := by
  induction t with
  | nil => simp [occursIn]
  | cons c r ih => simp [occursIn, ih, List.infix_cons_iff]

/-- The lower-case form of an ASCII letter; any other character is its own. -/
def asciiLower (c : Char) : Char :=
  if 'A' ≤ c ∧ c ≤ 'Z' then Char.ofNat (c.toNat + 32) else c

/-- Whether two texts are equal up to the case of ASCII letters. -/
def eqIgnoringAsciiCase (s t : Text) : Bool := s.map asciiLower == t.map asciiLower

end Text

end UrlFilter
