import UrlFilter.Regex.Basic
import UrlFilter.Regex.Expr
import UrlFilter.Regex.Fault

/-!
# Applying flags

`Expr.resolve` turns a written expression into a `Regex`.  It carries the flags along: flags in the
middle of a group hold for the rest of the group, past later alternatives too, and end with it.

Without the flag `unicode` classes hold ASCII characters only.  A class that would then hold a byte
beyond ASCII is refused, because matching it could split a character.

Classes by property are closed under case where case does not matter.  The classes of digits,
blanks and word characters are closed under case already.
-/

namespace UrlFilter.Regex

/-- The flags that decide what an expression matches. -/
structure Flags where
  /-- Letters match in either case. -/
  ignoreCase : Bool
  /-- Anchors match at the lines of the text. -/
  multiLine : Bool
  /-- The dot matches a line feed too. -/
  dotAll : Bool
  /-- Classes are those of Unicode. -/
  unicode : Bool
  /-- A carriage return ends a line too. -/
  crlf : Bool
  deriving DecidableEq, Repr

namespace Flags

/-- The flags that every expression of this library starts with: case does not matter. -/
def standard : Flags := ⟨true, false, false, true, false⟩

/-- The flags after a list of settings. -/
def update (f : Flags) (items : FlagItems) : Flags where
  ignoreCase := (items.value? .ignoreCase).getD f.ignoreCase
  multiLine := (items.value? .multiLine).getD f.multiLine
  dotAll := (items.value? .dotAll).getD f.dotAll
  unicode := (items.value? .unicode).getD f.unicode
  crlf := (items.value? .crlf).getD f.crlf

/-- A set closed under case, where the flags say so. -/
def close (f : Flags) (set : CharSet) : CharSet :=
  if f.ignoreCase then if f.unicode then .folded set else .asciiFolded set else set

/-- A set or its complement.  Without `unicode` a complement holds more than ASCII. -/
def negate (f : Flags) (negated : Bool) (set : CharSet) : Except SyntaxFault CharSet :=
  if negated then if f.unicode then .ok (.compl set) else .error .invalidUtf8 else .ok set

end Flags

/-- The set of a class with a one-letter escape. -/
def ShortClass.toSet (f : Flags) (cls : ShortClass) : CharSet :=
  match cls, f.unicode with
  | .digit, true => .digit
  | .digit, false => .range '0' '9'
  | .blank, true => .blank
  | .blank, false => .table [(0x09, 0x0D), (0x20, 0x20)]
  | .word, true => .word
  | .word, false => asciiWord
where
  /-- The word characters of ASCII. -/
  asciiWord : CharSet := .table [(0x30, 0x39), (0x41, 0x5A), (0x5F, 0x5F), (0x61, 0x7A)]

/-- The set of a class by property. -/
def propertySet (f : Flags) (query : Unicode.PropertyQuery) (negated : Bool) :
    Except SyntaxFault CharSet :=
  if f.unicode then
    match query.lookup with
    | .ok ranges => f.negate negated (f.close (.table ranges))
    | .error fault => .error (.property fault)
  else .error .unicodeNotAllowed

/-- Whether a character written as a byte stands for a part of a character. -/
def Literal.isPart (f : Flags) (lit : Literal) : Bool :=
  !f.unicode && lit.byte && 128 ≤ lit.char.toNat

/-- The character of an item of a class. -/
def Literal.inClass (f : Flags) (lit : Literal) : Except SyntaxFault Char :=
  if f.unicode then .ok lit.char
  else if lit.isPart f then .error .invalidUtf8
  else if 128 ≤ lit.char.toNat then .error .unicodeNotAllowed
  else .ok lit.char

/-- Two sets under an operator. -/
def SetOp.apply : SetOp → CharSet → CharSet → CharSet
  | .inter => .inter
  | .diff => .diff
  | .symmDiff => .symmDiff

/-- The set that stands between the brackets of a class. -/
def ClassExpr.resolve (f : Flags) : ClassExpr → Except SyntaxFault CharSet
  | .empty => .ok .none
  | .literal lit => do
    let c ← lit.inClass f
    return f.close (.single c)
  | .range first last => do
    let c ← first.inClass f
    let d ← last.inClass f
    return f.close (.range c d)
  | .ascii ranges negated => f.negate negated (f.close (.table ranges))
  | .short cls negated => f.negate negated (cls.toSet f)
  | .property query negated => propertySet f query negated
  | .bracketed negated set => do
    let set ← set.resolve f
    f.negate negated set
  | .union first rest => do
    let first ← first.resolve f
    let rest ← rest.resolve f
    return .union first rest
  | .op kind left right => do
    let left ← left.resolve f
    let right ← right.resolve f
    return kind.apply left right

/-- The set of a character outside of classes. -/
def Literal.resolve (f : Flags) (lit : Literal) : Except SyntaxFault CharSet :=
  if lit.isPart f then .error .invalidUtf8 else .ok (f.close (.single lit.char))

/-- The set of the dot: everything but the ends of lines. -/
def dotSet (f : Flags) : Except SyntaxFault CharSet :=
  if !f.unicode then .error .invalidUtf8
  else if f.dotAll then .ok .all
  else if f.crlf then .ok (.compl (.union (.single '\n') (.single '\r')))
  else .ok (.compl (.single '\n'))

/-- The test of an assertion. -/
def Assertion.resolve (f : Flags) (kind : Assertion) : Look :=
  let letters := ShortClass.word.toSet f
  match kind with
  | .caret => if f.multiLine then .lineStart f.crlf else .textStart
  | .dollar => if f.multiLine then .lineEnd f.crlf else .textEnd
  | .textStart => .textStart
  | .textEnd => .textEnd
  | .wordBoundary => .boundary letters
  | .notWordBoundary => .notBoundary letters
  | .wordStart => .wordStart letters
  | .wordEnd => .wordEnd letters
  | .wordStartHalf => .noneBefore letters
  | .wordEndHalf => .noneBehind letters

/-- A written expression under some flags, and the flags behind it. -/
def Expr.resolve (f : Flags) : Expr → Except SyntaxFault (Regex × Flags)
  | .empty => .ok (.empty, f)
  | .flags items => .ok (.empty, f.update items)
  | .literal lit => do
    let set ← lit.resolve f
    return (.char set, f)
  | .dot => do
    let set ← dotSet f
    return (.char set, f)
  | .assertion kind => .ok (.look (kind.resolve f), f)
  | .short cls negated => do
    let set ← f.negate negated (cls.toSet f)
    return (.char set, f)
  | .property query negated => do
    let set ← propertySet f query negated
    return (.char set, f)
  | .bracketed negated set => do
    let set ← set.resolve f
    let set ← f.negate negated set
    return (.char set, f)
  | .repeated body least most => do
    let (body, f) ← body.resolve f
    return (.repeated body least most, f)
  | .group numbered items body => do
    let (body, _) ← body.resolve (f.update items)
    return (.group numbered body, f)
  | .seq first rest => do
    let (first, f) ← first.resolve f
    let (rest, f) ← rest.resolve f
    return (.seq first rest, f)
  | .alt first rest => do
    let (first, f) ← first.resolve f
    let (rest, f) ← rest.resolve f
    return (.alt first rest, f)

end UrlFilter.Regex
