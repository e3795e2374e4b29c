import UrlFilter.Unicode.Property

/-!
# Written regular expressions

`Expr` is the tree of a regular expression as it is written: escapes are resolved, but flags are
not yet applied and properties not yet looked up.  Only what decides whether a text matches is
kept.  So a repetition does not say whether it is greedy, and a group does not say what it captures.

Concatenations and alternatives are chains: `seq x (seq y z)` stands for `xyz`.  `nesting` counts
how deep the parts of a tree are nested, where a chain counts as one level.
-/

namespace UrlFilter.Regex

/-- A flag that changes how the rest of a group is read. -/
inductive Flag where
  /-- Letters match in either case. -/
  | ignoreCase
  /-- Anchors match at the lines of the text. -/
  | multiLine
  /-- The dot matches a line feed too. -/
  | dotAll
  /-- Greedy and lazy repetitions change places. -/
  | swapGreed
  /-- Classes are those of Unicode. -/
  | unicode
  /-- A carriage return ends a line too. -/
  | crlf
  /-- Blanks and comments are dropped from the expression. -/
  | verbose
  deriving DecidableEq, Repr

/-- Flags with the value that each is set to, in the order of writing. -/
abbrev FlagItems := List (Flag × Bool)

/-- The value that a list of flags leaves a flag with. -/
def FlagItems.value? (items : FlagItems) (flag : Flag) : Option Bool :=
  (items.reverse.find? fun item => item.1 == flag).map (·.2)

/-- A single character; `byte` says that it was written as a byte, as `\xHH`. -/
structure Literal where
  /-- The character. -/
  char : Char
  /-- Whether it was written as a byte. -/
  byte : Bool
  deriving DecidableEq, Repr

/-- The classes with a one-letter escape. -/
inductive ShortClass where
  /-- The digits, `\d`. -/
  | digit
  /-- The blanks, `\s`. -/
  | blank
  /-- The word characters, `\w`. -/
  | word
  deriving DecidableEq, Repr

/-- The ways to combine two sets in a class. -/
inductive SetOp where
  /-- Both, `&&`. -/
  | inter
  /-- The first without the second, `--`. -/
  | diff
  /-- Exactly one, `~~`. -/
  | symmDiff
  deriving DecidableEq, Repr

/-- What stands between the brackets of a class. -/
inductive ClassExpr where
  /-- Nothing. -/
  | empty
  /-- One character. -/
  | literal (lit : Literal)
  /-- The characters from one to another. -/
  | range (first last : Literal)
  /-- A class of ASCII characters, as ranges. -/
  | ascii (ranges : Unicode.Ranges) (negated : Bool)
  /-- A class with a one-letter escape. -/
  | short (cls : ShortClass) (negated : Bool)
  /-- A class by property. -/
  | property (query : Unicode.PropertyQuery) (negated : Bool)
  /-- A class in brackets of its own. -/
  | bracketed (negated : Bool) (set : ClassExpr)
  /-- A chain of two or more sets, all of whose characters are in. -/
  | union (first rest : ClassExpr)
  /-- Two sets under an operator. -/
  | op (kind : SetOp) (left right : ClassExpr)
  deriving DecidableEq, Repr

/-- The tests that look around and match no character. -/
inductive Assertion where
  /-- The caret. -/
  | caret
  /-- The dollar sign. -/
  | dollar
  /-- The start of the text. -/
  | textStart
  /-- The end of the text. -/
  | textEnd
  /-- A start or an end of a word. -/
  | wordBoundary
  /-- Neither a start nor an end of a word. -/
  | notWordBoundary
  /-- The start of a word. -/
  | wordStart
  /-- The end of a word. -/
  | wordEnd
  /-- No word character right before. -/
  | wordStartHalf
  /-- No word character right behind. -/
  | wordEndHalf
  deriving DecidableEq, Repr

/-- A regular expression as it is written. -/
inductive Expr where
  /-- Nothing, which matches the empty text. -/
  | empty
  /-- Flags for the rest of the group. -/
  | flags (items : FlagItems)
  /-- One character. -/
  | literal (lit : Literal)
  /-- The dot. -/
  | dot
  /-- A test that looks around. -/
  | assertion (kind : Assertion)
  /-- A class with a one-letter escape. -/
  | short (cls : ShortClass) (negated : Bool)
  /-- A class by property. -/
  | property (query : Unicode.PropertyQuery) (negated : Bool)
  /-- A class in brackets. -/
  | bracketed (negated : Bool) (set : ClassExpr)
  /-- A repetition between two counts, the greater of which may be missing. -/
  | repeated (body : Expr) (least : Nat) (most : Option Nat)
  /-- A group with flags of its own, which has a number or not. -/
  | group (numbered : Bool) (items : FlagItems) (body : Expr)
  /-- One expression behind another. -/
  | seq (first rest : Expr)
  /-- One expression or another. -/
  | alt (first rest : Expr)
  deriving DecidableEq, Repr

/-! ## Chains -/

/-- The chain of some sets. -/
def ClassExpr.unionOf : List ClassExpr → ClassExpr
  | [] => .empty
  | [x] => x
  | x :: xs => .union x (unionOf xs)

/-- The chain of some expressions, one behind the other. -/
def Expr.seqOf : List Expr → Expr
  | [] => .empty
  | [x] => x
  | x :: xs => .seq x (seqOf xs)

/-- The chain of some alternatives. -/
def Expr.altOf : List Expr → Expr
  | [] => .empty
  | [x] => x
  | x :: xs => .alt x (altOf xs)

/-! ## Nesting -/

/-- How deep the parts of a class are nested; `inChain` says that a union goes on. -/
def ClassExpr.nesting (inChain : Bool) : ClassExpr → Nat
  | .union first rest =>
    (if inChain then 0 else 1) + max (first.nesting false) (rest.nesting true)
  | .bracketed _ set => 1 + set.nesting false
  | .op _ left right => 1 + max (left.nesting false) (right.nesting false)
  | _ => 0

/-- The chain that an expression stands in. -/
inductive Chain where
  /-- No chain. -/
  | none
  /-- A concatenation. -/
  | seq
  /-- A list of alternatives. -/
  | alt
  deriving DecidableEq, Repr

/-- How deep the parts of an expression are nested inside a chain. -/
def Expr.nestingIn (chain : Chain) : Expr → Nat
  | .bracketed _ set => 1 + set.nesting false
  | .repeated body _ _ => 1 + body.nestingIn .none
  | .group _ _ body => 1 + body.nestingIn .none
  | .seq first rest =>
    (if chain = .seq then 0 else 1) + max (first.nestingIn .none) (rest.nestingIn .seq)
  | .alt first rest =>
    (if chain = .alt then 0 else 1) + max (first.nestingIn .none) (rest.nestingIn .alt)
  | _ => 0

/-- How deep the parts of an expression are nested. -/
def Expr.nesting (e : Expr) : Nat := e.nestingIn .none

end UrlFilter.Regex
