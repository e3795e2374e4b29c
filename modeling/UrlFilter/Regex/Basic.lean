import UrlFilter.Regex.CharSet

/-!
# Regular expressions

`Regex` is a regular expression whose flags are applied and whose classes are sets.  It says which
pieces of a text it matches, and nothing about captures or preference.

`Matches t r i j` is that meaning: `r` matches the piece of the text `t` from position `i` to
position `j`.  Positions count characters, and a text of `n` characters has the positions `0` to
`n`.  An expression matches a text if it matches some piece of it.
-/

namespace UrlFilter

/-- A test of what stands around a position. -/
inductive Regex.Look where
  /-- The start of the text. -/
  | textStart
  /-- The end of the text. -/
  | textEnd
  /-- The start of a line; with `crlf` a carriage return ends a line too. -/
  | lineStart (crlf : Bool)
  /-- The end of a line; with `crlf` a carriage return ends a line too. -/
  | lineEnd (crlf : Bool)
  /-- A word on exactly one side; `letters` is the set of word characters. -/
  | boundary (letters : Regex.CharSet)
  /-- A word on both sides or on none. -/
  | notBoundary (letters : Regex.CharSet)
  /-- A word behind and none before. -/
  | wordStart (letters : Regex.CharSet)
  /-- A word before and none behind. -/
  | wordEnd (letters : Regex.CharSet)
  /-- No word before. -/
  | noneBefore (letters : Regex.CharSet)
  /-- No word behind. -/
  | noneBehind (letters : Regex.CharSet)
  deriving DecidableEq, Repr

/-- A regular expression, as far as it decides what it matches. -/
inductive Regex where
  /-- Matches the empty piece. -/
  | empty
  /-- Matches one character of a set. -/
  | char (set : Regex.CharSet)
  /-- Matches the empty piece where a test holds. -/
  | look (test : Regex.Look)
  /-- Matches one expression and then another. -/
  | seq (first second : Regex)
  /-- Matches one expression or another. -/
  | alt (left right : Regex)
  /-- Matches an expression so many times in a row, between two counts. -/
  | repeated (body : Regex) (least : Nat) (most : Option Nat)
  /-- Matches what a group holds, which has a number or not. -/
  | group (numbered : Bool) (body : Regex)
  deriving DecidableEq, Repr

namespace Regex

/-! ## Tests -/

/-- Whether a neighbour exists and is a word character. -/
def isWordAt (letters : CharSet) (neighbour : Option Char) : Bool := neighbour.any letters.mem

/-- Whether a test holds between two neighbours; a missing one is an end of the text. -/
def Look.holds (before behind : Option Char) : Look → Bool
  | textStart => before.isNone
  | textEnd => behind.isNone
  | lineStart false => before.isNone || before == some '\n'
  | lineStart true =>
    before.isNone || before == some '\n' || (before == some '\r' && behind != some '\n')
  | lineEnd false => behind.isNone || behind == some '\n'
  | lineEnd true =>
    behind.isNone || behind == some '\r' || (behind == some '\n' && before != some '\r')
  | boundary letters => isWordAt letters before != isWordAt letters behind
  | notBoundary letters => isWordAt letters before == isWordAt letters behind
  | wordStart letters => !isWordAt letters before && isWordAt letters behind
  | wordEnd letters => isWordAt letters before && !isWordAt letters behind
  | noneBefore letters => !isWordAt letters before
  | noneBehind letters => !isWordAt letters behind

/-- Whether a test holds at a position of a text. -/
def Look.holdsAt (t : Text) (i : Nat) (test : Look) : Bool :=
  test.holds (if i = 0 then none else t[i - 1]?) t[i]?

/-! ## Meaning -/

/-- The expression matches the piece of the text between two positions. -/
inductive Matches (t : Text) : Regex → Nat → Nat → Prop where
  /-- The empty expression matches where it stands. -/
  | empty {i : Nat} : i ≤ t.length → Matches t .empty i i
  /-- A set matches a character in it. -/
  | char {set : CharSet} {c : Char} {i : Nat} : t[i]? = some c → set.mem c = true →
      Matches t (.char set) i (i + 1)
  /-- A test matches where it holds. -/
  | look {test : Look} {i : Nat} : i ≤ t.length → test.holdsAt t i = true →
      Matches t (.look test) i i
  /-- A sequence matches one piece behind the other. -/
  | seq {r s : Regex} {i j k : Nat} : Matches t r i j → Matches t s j k →
      Matches t (.seq r s) i k
  /-- An alternative matches what its left side matches. -/
  | altLeft {r s : Regex} {i j : Nat} : Matches t r i j → Matches t (.alt r s) i j
  /-- An alternative matches what its right side matches. -/
  | altRight {r s : Regex} {i j : Nat} : Matches t s i j → Matches t (.alt r s) i j
  /-- A repetition that asks for nothing matches the empty piece. -/
  | repeatedNone {r : Regex} {most : Option Nat} {i : Nat} : i ≤ t.length →
      Matches t (.repeated r 0 most) i i
  /-- A repetition matches its body and then one time less. -/
  | repeatedSome {r : Regex} {least : Nat} {most : Option Nat} {i j k : Nat} : most ≠ some 0 →
      Matches t r i j → Matches t (.repeated r (least - 1) (most.map (· - 1))) j k →
      Matches t (.repeated r least most) i k
  /-- A group matches what it holds. -/
  | group {numbered : Bool} {r : Regex} {i j : Nat} : Matches t r i j →
      Matches t (.group numbered r) i j

/-- The expression matches some piece of the text. -/
def Occurs (t : Text) (r : Regex) : Prop := ∃ i j, Matches t r i j

end Regex

end UrlFilter
