import UrlFilter.Regex.Parser
import UrlFilter.Regex.Resolve
import UrlFilter.Regex.Size

/-!
# Matching regular expressions

To decide whether an expression matches a text, no single match is followed.  Instead each part of
the expression takes the *set of positions* where a match may stand before it to the set of
positions where it may stand behind it.  A set of positions is a number whose bit `i` says whether
position `i` is in it.

A set of characters is first turned into the set of the positions where such a character stands, and
a test into the positions where it holds.  The result is a `Plan`, which no longer needs the text.
Then one character is a mask and a shift, a sequence is composition and an alternative is union.  A
repetition is run until it adds no position, which it cannot do more often than there are positions.

`compile` reads an expression, applies the flags and refuses what would become too large.
-/

namespace UrlFilter.Regex

/-! ## Sets of positions -/

/-- The positions of a text where a character passes a test. -/
def charPositions (p : Char → Bool) : Text → Nat
  | [] => 0
  | c :: r => 2 * charPositions p r + (if p c then 1 else 0)

/-- The positions of a text where a test holds, behind a character. -/
def lookPositions (test : Look) (before : Option Char) : Text → Nat
  | [] => if test.holds before none then 1 else 0
  | c :: r => 2 * lookPositions test (some c) r + (if test.holds before (some c) then 1 else 0)

/-- Every position of a text of some length. -/
def allPositions (length : Nat) : Nat := 1 <<< (length + 1) - 1

/-- An operation applied so many times in a row.  It stops early where nothing changes. -/
def power (f : Nat → Nat) : Nat → Nat → Nat
  | 0, s => s
  | n + 1, s =>
    let s' := f s
    if s' = s then s else power f n s'

/-- The positions reached by applying an operation at most so many times in a row. -/
def reach (f : Nat → Nat) : Nat → Nat → Nat
  | 0, s => s
  | n + 1, s =>
    let s' := s ||| f s
    if s' = s then s else reach f n s'

/-! ## Plans -/

/-- A regular expression for one text, whose sets and tests are sets of positions. -/
inductive Plan where
  /-- Stay where it is. -/
  | stay
  /-- Go past one character, at some positions. -/
  | advance (positions : Nat)
  /-- Stay, at some positions. -/
  | guard (positions : Nat)
  /-- One plan and then another. -/
  | seq (first second : Plan)
  /-- One plan or another. -/
  | alt (left right : Plan)
  /-- A plan so many times in a row, and then at most so many times more. -/
  | repeated (body : Plan) (least more : Nat)
  deriving DecidableEq, Repr

/-- The plan of an expression for a text. -/
def plan (t : Text) : Regex → Plan
  | .empty => .stay
  | .char set => .advance (charPositions set.mem t)
  | .look test => .guard (lookPositions test none t)
  | .seq first second => .seq (plan t first) (plan t second)
  | .alt left right => .alt (plan t left) (plan t right)
  | .repeated body least most =>
    .repeated (plan t body) least
      (match most with
        | some most => most - least
        | none => t.length + 1)
  | .group _ body => plan t body

/-- The positions behind a plan that starts at some positions. -/
def Plan.ends : Plan → Nat → Nat
  | .stay, s => s
  | .advance positions, s => (s &&& positions) <<< 1
  | .guard positions, s => s &&& positions
  | .seq first second, s => second.ends (first.ends s)
  | .alt left right, s => left.ends s ||| right.ends s
  | .repeated body least more, s => reach body.ends more (power body.ends least s)

/-- Whether an expression matches some piece of a text. -/
def isMatch (r : Regex) (t : Text) : Bool := (plan t r).ends (allPositions t.length) != 0

/-! ## Compiling -/

/-- An expression whose program is within the limit of sizes. -/
def checkSize (r : Regex) : Except Fault Regex :=
  if r.fits then .ok r else .error (.tooLarge sizeLimit)

/-- Reads an expression and applies the standard flags. -/
def ofText (t : Text) : Except SyntaxFault Regex := do
  let e ← Expr.parse t
  let (r, _) ← e.resolve .standard
  return r

/-- The expression that a text stands for, if it is one and is not too large. -/
def compile (t : Text) : Except Fault Regex :=
  match ofText t with
  | .ok r => checkSize r
  | .error fault => .error (.malformed fault)

end UrlFilter.Regex
