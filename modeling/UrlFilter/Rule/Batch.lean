import UrlFilter.Rule

/-!
# Batches of lines

A batch compiles many lines at once.  Every line that is not blank goes to one of two places: the
rules, in the order of the lines, or the skipped lines, with the number of the line and the reason.
Blank lines go nowhere, and still count.
-/

namespace UrlFilter

/-- A line that is no rule, in a batch. -/
structure SkippedLine where
  /-- Which line of the batch it is, from one. -/
  number : Nat
  /-- The line, trimmed. -/
  text : Text
  /-- What is wrong with it. -/
  reason : RuleFault
  deriving DecidableEq, Repr

/-- What the lines of a batch became. -/
structure Batch where
  /-- The rules, in the order of the lines. -/
  rules : List Rule
  /-- The lines that are no rules, in order. -/
  skipped : List SkippedLine
  deriving DecidableEq, Repr

/-- What adding a batch says: how many rules it has, and which lines were skipped. -/
structure Report where
  /-- The number of rules. -/
  compiled : Nat
  /-- The lines that are no rules, in order. -/
  skipped : List SkippedLine
  deriving DecidableEq, Repr

namespace Batch

/-- The batch of no lines. -/
def empty : Batch := ⟨[], []⟩

/-- Two batches, one behind the other. -/
def append (a b : Batch) : Batch := ⟨a.rules ++ b.rules, a.skipped ++ b.skipped⟩

/-- The batch of the line with a number. -/
def ofLine (number : Nat) (line : Text) : Batch :=
  if line.trim.isEmpty then empty
  else
    match Rule.compile line with
    | .ok rule => ⟨[rule], []⟩
    | .error e => ⟨[], [⟨number, line.trim, e.reason⟩]⟩

/-- The batch of lines whose first has a number. -/
def ofLinesFrom (number : Nat) : List Text → Batch
  | [] => empty
  | line :: lines => (ofLine number line).append (ofLinesFrom (number + 1) lines)

/-- The batch of some lines. -/
def ofLines (lines : List Text) : Batch := ofLinesFrom 1 lines

/-- The report of a batch. -/
def report (b : Batch) : Report := ⟨b.rules.length, b.skipped⟩

end Batch

end UrlFilter
