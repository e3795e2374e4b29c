import UrlFilter.Unicode.Folding
import UrlFilter.Unicode.Ranges
import UrlFilter.Unicode.Word

/-!
# Sets of characters

A regular expression tests one character at a time against a set.  A `CharSet` is such a set as the
expression describes it, and `mem` decides whether a character is in it.

Matching without regard to case does not change this test.  It closes the sets instead: `folded s`
holds every character that is equal up to case to one in `s`.
-/

namespace UrlFilter.Regex

/-- A set of characters. -/
inductive CharSet where
  /-- The characters from one to another. -/
  | range (first last : Char)
  /-- The characters of a table. -/
  | table (ranges : Unicode.Ranges)
  /-- The digits. -/
  | digit
  /-- The blanks. -/
  | blank
  /-- The word characters. -/
  | word
  /-- The characters in one set or another. -/
  | union (left right : CharSet)
  /-- The characters in two sets. -/
  | inter (left right : CharSet)
  /-- The characters that are not in a set. -/
  | compl (set : CharSet)
  /-- The characters that are equal up to case to one in a set. -/
  | folded (set : CharSet)
  /-- The characters that are equal up to the case of ASCII letters to one in a set. -/
  | asciiFolded (set : CharSet)
  deriving DecidableEq, Repr

namespace CharSet

/-- The set of one character. -/
def single (c : Char) : CharSet := .range c c

/-- The set without a character. -/
def none : CharSet := .table []

/-- The set of every character. -/
def all : CharSet := .compl none

/-- The characters in the first set that are not in the second. -/
def diff (left right : CharSet) : CharSet := .inter left (.compl right)

/-- The characters in exactly one of two sets. -/
def symmDiff (left right : CharSet) : CharSet := .union (diff left right) (diff right left)

/-- Whether a character is in a set. -/
def mem : CharSet → Char → Bool
  | range first last, c => first ≤ c && c ≤ last
  | table ranges, c => ranges.has c.toNat
  | digit, c => Unicode.isDigit c
  | blank, c => Text.isBlank c
  | word, c => Unicode.isWord c
  | union left right, c => left.mem c || right.mem c
  | inter left right, c => left.mem c && right.mem c
  | compl set, c => !set.mem c
  | folded set, c => (Unicode.variants c).any fun d => set.mem d
  | asciiFolded set, c => set.mem c || set.mem (Text.asciiLower c) || set.mem (Unicode.asciiUpper c)

/-! ## Ranges -/

/-- The ranges of ASCII word characters. -/
def asciiWordRanges : Unicode.Ranges := [(0x30, 0x39), (0x41, 0x5A), (0x5F, 0x5F), (0x61, 0x7A)]

/-- The ranges of blanks. -/
def blankRanges : Unicode.Ranges :=
  [(0x9, 0xD), (0x20, 0x20), (0x85, 0x85), (0xA0, 0xA0), (0x1680, 0x1680), (0x2000, 0x200A),
   (0x2028, 0x2029), (0x202F, 0x202F), (0x205F, 0x205F), (0x3000, 0x3000)]

/-- The characters of a set as ranges, in ascending order and with a gap between each two. -/
def ranges : CharSet → Unicode.Ranges
  | range first last => if first ≤ last then [(first.toNat, last.toNat)] else []
  | table ranges => ranges.normalize
  | digit => (0x30, 0x39) :: Unicode.digitRanges
  | blank => blankRanges
  | word => (asciiWordRanges ++ Unicode.wordRanges).normalize
  | union left right => (left.ranges ++ right.ranges).normalize
  | inter left right =>
    (left.ranges.complement ++ right.ranges.complement).normalize.complement
  | compl set => set.ranges.complement
  | folded (range first last) =>
    if first = last then
      Unicode.Ranges.normalize ((Unicode.variants first).map fun c => (c.toNat, c.toNat))
    else closeRanges Unicode.foldPairs [(first.toNat, last.toNat)]
  | folded set => closeRanges Unicode.foldPairs set.ranges
  | asciiFolded set => closeRanges Unicode.asciiFoldPairs set.ranges
where
  /-- Ranges closed under pairs of characters that are equal up to case, each with its folding. -/
  closeRanges (pairs : List (Nat × Nat)) (ranges : Unicode.Ranges) : Unicode.Ranges :=
    let foldings := (pairs.filter fun p => ranges.has p.1 || ranges.has p.2).map (·.2)
    let sources := (pairs.filter fun p => foldings.contains p.2).map (·.1)
    Unicode.Ranges.normalize (ranges ++ (foldings ++ sources).map fun n => (n, n))

/-- A bound on the number of ranges, which is worked out faster than the ranges. -/
def rangeBound : CharSet → Nat
  | range _ _ => 1
  | table ranges => ranges.length
  | digit => Unicode.digitRanges.length + 1
  | blank => blankRanges.length
  | word => Unicode.wordRanges.length + asciiWordRanges.length
  | union left right => left.rangeBound + right.rangeBound
  | inter left right => left.rangeBound + right.rangeBound + 1
  | compl set => set.rangeBound + 1
  | folded (range first last) =>
    if first = last then 4 else 2 * Unicode.foldPairs.length + 1
  | folded set => set.rangeBound + 2 * Unicode.foldPairs.length
  | asciiFolded set => set.rangeBound + 2 * Unicode.asciiFoldPairs.length

end CharSet

end UrlFilter.Regex
