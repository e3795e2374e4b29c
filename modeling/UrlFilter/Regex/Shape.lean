import UrlFilter.Regex.Basic

/-!
# Shapes of expressions

The `Shape` of an expression is the form in which it is laid out as a program.  It is built bottom
up, and each step simplifies: what is empty is left out of a sequence, and characters in a row
become one text.  Alternatives of single characters become a class, and so do alternatives of
classes.  Where all alternatives are sequences that start alike, the common start comes first and
the alternatives follow.

A sequence is a chain `seq x (seq y z)` of two or more parts.  No part is empty or a sequence, and
no two texts stand side by side.  A choice is a chain of two or more alternatives, none of which is
a choice, or a list of `words` if all of them are texts.
-/

namespace UrlFilter.Regex

/-- An expression, as far as it decides how it is laid out. -/
inductive Shape where
  /-- Reads nothing. -/
  | empty
  /-- Makes a test. -/
  | look (test : Look)
  /-- Reads a text of one or more code points. -/
  | literal (text : List Nat)
  /-- Reads one character of some ranges. -/
  | set (ranges : Unicode.Ranges)
  /-- One part and then the others. -/
  | seq (first rest : Shape)
  /-- One alternative or another. -/
  | alt (first rest : Shape)
  /-- Reads one of some texts. -/
  | words (texts : List (List Nat))
  /-- A shape so many times in a row, between two counts. -/
  | repeated (body : Shape) (least : Nat) (most : Option Nat)
  /-- A shape that is a group with a number. -/
  | group (body : Shape)
  deriving DecidableEq, Repr

namespace Shape

/-! ## What a shape reads -/

/-- Whether the shape reads no character, ever. -/
def readsNothing : Shape → Bool
  | empty | look _ => true
  | literal _ | set _ | words _ => false
  | seq first rest => first.readsNothing && rest.readsNothing
  | alt first rest => first.readsNothing && rest.readsNothing
  | repeated body _ most => body.readsNothing && most.isSome
  | group body => body.readsNothing

/-- The least number of characters that the shape reads.  It is not known where a class without
characters takes part. -/
def leastLength : Shape → Option Nat
  | empty | look _ => some 0
  | literal text => some text.length
  | set ranges => if ranges.isEmpty then none else some 1
  | seq first rest => do return (← first.leastLength) + (← rest.leastLength)
  | alt first rest => do return min (← first.leastLength) (← rest.leastLength)
  | words texts => (texts.map List.length).min?
  | repeated body least _ => body.leastLength.map (· * least)
  | group body => body.leastLength

/-- Whether the shape is known to read at least one character. -/
def readsSome (s : Shape) : Bool := s.leastLength.any (0 < ·)

/-- Whether the shape makes a test before it reads anything, always; seen from behind if
`backward`. -/
def startsWith (backward : Bool) (test : Look) : Shape → Bool
  | look t => t == test
  | seq first rest =>
    if backward then
      rest.startsWith true test || (rest.readsNothing && first.startsWith true test)
    else first.startsWith false test || (first.readsNothing && rest.startsWith false test)
  | alt first rest => first.startsWith backward test && rest.startsWith backward test
  | repeated body least _ => 0 < least && body.startsWith backward test
  | group body => body.startsWith backward test
  | _ => false

/-- Whether two shapes at different places are the same.  A group with a number is the same as no
other. -/
def same : Shape → Shape → Bool
  | empty, empty => true
  | look a, look b => a == b
  | literal a, literal b => a == b
  | set a, set b => a == b
  | seq a b, seq c d => a.same c && b.same d
  | alt a b, alt c d => a.same c && b.same d
  | words a, words b => a == b
  | repeated a least most, repeated b least' most' => a.same b && least == least' && most == most'
  | _, _ => false

/-! ## Classes and repetitions -/

/-- The shape of a class. -/
def ofRanges : Unicode.Ranges → Shape
  | [(first, last)] => if first = last then literal [first] else set [(first, last)]
  | ranges => set ranges

/-- A repetition.  Where the body reads nothing, once is as good as often. -/
def times (body : Shape) (least : Nat) (most : Option Nat) : Shape :=
  let least := if body.readsNothing then min least 1 else least
  let most := if body.readsNothing then some (min (most.getD 1) 1) else most
  if most = some 0 then empty
  else if least = 1 ∧ most = some 1 then body
  else repeated body least most

/-! ## Sequences -/

/-- The parts of a sequence; any other shape is a part by itself. -/
def parts : Shape → List Shape
  | empty => []
  | seq first rest => first :: rest.parts
  | s => [s]

/-- A part in front of a shape. -/
def prepend : Shape → Shape → Shape
  | part, empty => part
  | literal a, literal b => literal (a ++ b)
  | literal a, seq (literal b) rest => seq (literal (a ++ b)) rest
  | part, s => seq part s

/-- One shape and then another. -/
def append : Shape → Shape → Shape
  | empty, s => s
  | seq first rest, s => first.prepend (rest.append s)
  | part, s => part.prepend s

/-- The sequence of some parts. -/
def ofParts (parts : List Shape) : Shape := parts.foldr append empty

/-! ## Choices -/

/-- The alternatives of a choice; any other shape is an alternative by itself. -/
def branches : Shape → List Shape
  | alt first rest => first :: rest.branches
  | words texts => texts.map literal
  | s => [s]

/-- The text that a shape reads, if it is one. -/
def text? : Shape → Option (List Nat)
  | literal text => some text
  | _ => none

/-- The range of a single character. -/
def singleton? : Shape → Option (Nat × Nat)
  | literal [n] => some (n, n)
  | _ => none

/-- The ranges of a class. -/
def ranges? : Shape → Option Unicode.Ranges
  | set ranges => some ranges
  | _ => none

/-- The class that some alternatives join to, if they are all single characters or all classes. -/
def joined? (alternatives : List Shape) : Option Shape :=
  match alternatives.mapM singleton? with
  | some ranges => some (ofRanges (Unicode.Ranges.normalize ranges))
  | none =>
    (alternatives.mapM ranges?).map fun classes =>
      ofRanges (Unicode.Ranges.normalize classes.flatten)

/-- The chain of some alternatives. -/
def chain : List Shape → Shape
  | [] => empty
  | [s] => s
  | s :: rest => alt s (chain rest)

/-- The choice among some alternatives, as they are. -/
def ofBranches (alternatives : List Shape) : Shape :=
  match alternatives.mapM text? with
  | some texts => words texts
  | none => chain alternatives

/-- What two lists of parts start with in common. -/
def commonParts : List Shape → List Shape → List Shape
  | a :: as, b :: bs => if a.same b then a :: commonParts as bs else []
  | _, _ => []

/-- The choice among some sequences that start alike, with the common start in front. -/
def factored? (alternatives : List Shape) : Option Shape :=
  match alternatives.map parts with
  | [] => none
  | first :: others =>
    let start := others.foldl commonParts first
    if start.isEmpty || (first :: others).any (·.length ≤ 1) then none
    else
      let rests := (first :: others).flatMap fun parts =>
        (ofParts (parts.drop start.length)).branches
      some ((ofParts start).append ((joined? rests).getD (ofBranches rests)))

/-- The choice among some alternatives, none of which is a choice. -/
def choice : List Shape → Shape
  | [s] => s
  | alternatives =>
    ((joined? alternatives).or (factored? alternatives)).getD (ofBranches alternatives)

end Shape

/-! ## Shapes of expressions -/

/-- The shapes of the alternatives of an expression.  A group in an alternative is simplified before
its alternatives join the others. -/
def alternatives : Regex → List Shape
  | empty => [.empty]
  | char set => [.ofRanges set.ranges]
  | look test => [.look test]
  | seq first second =>
    ((Shape.choice first.alternatives).append (Shape.choice second.alternatives)).branches
  | alt left right => (Shape.choice left.alternatives).branches ++ right.alternatives
  | repeated body least most => ((Shape.choice body.alternatives).times least most).branches
  | group true body => [.group (Shape.choice body.alternatives)]
  | group false body => (Shape.choice body.alternatives).branches

/-- The shape of an expression. -/
def shape (r : Regex) : Shape := Shape.choice r.alternatives

end UrlFilter.Regex
