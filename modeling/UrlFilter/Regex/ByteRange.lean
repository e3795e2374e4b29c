import UrlFilter.Unicode.Ranges

/-!
# Ranges of characters as ranges of bytes

A program that reads bytes tests a character by its bytes in UTF-8.  `byteSequences` takes ranges of
characters apart into sequences of ranges of bytes.  A character is in one of the ranges exactly if
its bytes are, one by one, in the ranges of one of the sequences.  The sequences stand in ascending
order, and no character is in two of them.

A character beyond ASCII is written as a leading byte and some bytes of six bits each, so a range of
such characters is a range of numbers with digits to the base 64.
-/

namespace UrlFilter.Regex

/-- A range of bytes, from the first to the last. -/
abbrev ByteRange := Nat × Nat

/-- The sequences for the numbers from one to another.  They are written in a leading byte, which
counts from `base`, and as many further bytes as given. -/
def digitSequences (base : Nat) : Nat → Nat → Nat → List (List ByteRange)
  | 0, first, last => [[(base + first, base + last)]]
  | n + 1, first, last =>
    let unit := 64 ^ (n + 1)
    let low := first / unit
    let high := last / unit
    if low = high then
      (digitSequences 0x80 n (first % unit) (last % unit)).map ((base + low, base + low) :: ·)
    else
      let start :=
        if first % unit = 0 then []
        else (digitSequences 0x80 n (first % unit) (unit - 1)).map ((base + low, base + low) :: ·)
      let stop :=
        if last % unit = unit - 1 then []
        else (digitSequences 0x80 n 0 (last % unit)).map ((base + high, base + high) :: ·)
      let low := if first % unit = 0 then low else low + 1
      let high := if last % unit = unit - 1 then high + 1 else high
      let middle :=
        if low < high then
          (digitSequences 0x80 n 0 (unit - 1)).map ((base + low, base + high - 1) :: ·)
        else []
      start ++ middle ++ stop

/-- The characters that are written with the same number of bytes. -/
structure EncodedLength where
  /-- The first of the characters. -/
  first : Nat
  /-- The last of the characters. -/
  last : Nat
  /-- What the leading byte counts from. -/
  lead : Nat
  /-- How many bytes follow the leading one. -/
  more : Nat
  deriving DecidableEq, Repr

/-- The characters by the lengths of their encodings; surrogates are no characters. -/
def encodedLengths : List EncodedLength :=
  [⟨0, 0x7F, 0, 0⟩, ⟨0x80, 0x7FF, 0xC0, 1⟩, ⟨0x800, 0xD7FF, 0xE0, 2⟩, ⟨0xE000, 0xFFFF, 0xE0, 2⟩,
   ⟨0x10000, 0x10FFFF, 0xF0, 3⟩]

/-- The sequences of a range of characters. -/
def rangeSequences (range : Nat × Nat) : List (List ByteRange) :=
  encodedLengths.flatMap fun e =>
    let first := max range.1 e.first
    let last := min range.2 e.last
    if first ≤ last then digitSequences e.lead e.more first last else []

/-- The sequences of ranges of characters. -/
def byteSequences (ranges : Unicode.Ranges) : List (List ByteRange) := ranges.flatMap rangeSequences

/-- The bytes that a text is written with. -/
def bytesOf (text : List Nat) : List Nat :=
  text.flatMap fun n => (rangeSequences (n, n)).flatten.map (·.1)

end UrlFilter.Regex
