/-!
# Tables of the Unicode Character Database

A property of characters is written as a list of ranges of code points, a case mapping as a list
of runs.  A run covers the code points from `first` to `last` in steps of `step` and takes them to
`target` and the code points behind it at the same distances.

Longer tables are written as lines of text.  `Ranges.ofLines` reads blank-separated ranges such as
`41-5A 61-7A AA` in hexadecimal.
-/

namespace UrlFilter.Unicode

/-! ## Ranges of code points -/

/-- A set of code points: inclusive ranges, in ascending order. -/
abbrev Ranges := List (Nat × Nat)

/-- Whether a code point lies in one of the ranges. -/
def Ranges.has (ranges : Ranges) (n : Nat) : Bool :=
  ranges.any fun r => r.1 ≤ n && n ≤ r.2

/-- Joins a range with the ranges behind it that it touches; they start in ascending order. -/
def Ranges.joinFrom (first : Nat × Nat) : Ranges → Ranges
  | [] => [first]
  | r :: rs =>
    if r.1 ≤ first.2 + 1 then joinFrom (first.1, max first.2 r.2) rs else first :: joinFrom r rs

/-- The same set as ranges in ascending order, with a gap between each two. -/
def Ranges.normalize (ranges : Ranges) : Ranges :=
  match ranges.mergeSort fun r s => r.1 ≤ s.1 with
  | [] => []
  | r :: rs => joinFrom r rs

/-- The last code point. -/
def lastCodePoint : Nat := 0x10FFFF

/-- The code points from `first` on that are in none of some ranges in ascending order. -/
def Ranges.complementFrom (first : Nat) : Ranges → Ranges
  | [] => if first ≤ lastCodePoint then [(first, lastCodePoint)] else []
  | r :: rs =>
    if first < r.1 then (first, r.1 - 1) :: complementFrom (r.2 + 1) rs
    else complementFrom (r.2 + 1) rs

/-- The code points that are in none of some ranges in ascending order. -/
def Ranges.complement (ranges : Ranges) : Ranges := complementFrom 0 ranges

/-- The value of a hexadecimal digit; any other character counts as zero. -/
def hexValue (c : Char) : Nat :=
  if '0' ≤ c ∧ c ≤ '9' then c.toNat - 48
  else if 'A' ≤ c ∧ c ≤ 'F' then c.toNat - 55
  else 0

/-- The number that a text of hexadecimal digits stands for. -/
def hexNat (digits : List Char) : Nat := digits.foldl (fun n c => 16 * n + hexValue c) 0

/-- The range written as `lo-hi`, or as `lo` where both ends are equal. -/
def Range.ofText (word : List Char) : Nat × Nat :=
  match word.splitOn '-' with
  | [lo, hi] => (hexNat lo, hexNat hi)
  | _ => (hexNat word, hexNat word)

/-- The words of a line of a table: its pieces between blanks. -/
def tableWords (line : String) : List (List Char) :=
  (line.toList.splitOn ' ').filter fun word => !word.isEmpty

/-- The ranges written in the lines of a table. -/
def Ranges.ofLines (lines : List String) : Ranges :=
  lines.flatMap fun line => (tableWords line).map Range.ofText

/-! ## Runs of case mappings -/

/-- A run of code points that are mapped to code points at the same distances. -/
structure CaseRun where
  /-- The first code point that is mapped. -/
  first : Nat
  /-- The last code point that is mapped. -/
  last : Nat
  /-- The distance of two neighbours in the run. -/
  step : Nat
  /-- What the first code point is mapped to. -/
  target : Nat
  deriving DecidableEq, Repr

namespace CaseRun

/-- Whether a run maps a code point. -/
def covers (run : CaseRun) (n : Nat) : Bool :=
  run.first ≤ n && n ≤ run.last && (n - run.first) % run.step == 0

/-- The code points that a run covers, each with what it is mapped to. -/
def pairs (run : CaseRun) : List (Nat × Nat) :=
  (List.range ((run.last - run.first) / run.step + 1)).map fun k =>
    (run.first + k * run.step, run.target + k * run.step)

/-- What a run maps a code point to that it covers. -/
def apply (run : CaseRun) (n : Nat) : Nat := n - run.first + run.target

/-- The code point that a run would map to this one. -/
def source (run : CaseRun) (n : Nat) : Nat := n - run.target + run.first

end CaseRun

/-- A code point under the first run that covers it; one that no run covers stays. -/
def applyRuns (runs : List CaseRun) (n : Nat) : Nat :=
  match runs.find? (·.covers n) with
  | some run => run.apply n
  | none => n

/-- The code points that some run takes to this one, with the code point itself in front. -/
def sourcesOf (runs : List CaseRun) (n : Nat) : List Nat :=
  n :: ((runs.filter fun run => run.target ≤ n && run.covers (run.source n)).map (·.source n))

end UrlFilter.Unicode
