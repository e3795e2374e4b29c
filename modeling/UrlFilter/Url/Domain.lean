import UrlFilter.Unicode.Direction
import UrlFilter.Unicode.Joining
import UrlFilter.Unicode.Mark
import UrlFilter.Unicode.Normalization
import UrlFilter.Url.DomainMapping
import UrlFilter.Url.Punycode

/-!
# Domain names

`Domain.toAscii` brings a domain name into the one ASCII form in which names are compared.  It
follows Unicode Technical Standard 46.

1. Each character is mapped, and the text is brought into the normalization form NFC.
2. The text is cut into labels at its dots.
3. A label in Punycode, which starts with `xn--`, is decoded.  It must be what step 1 would leave.
4. Each label must be valid: it starts with no mark, joiners stand only where they have an effect,
   and no label mixes directions in a name that has letters from right to left.
5. A label beyond ASCII is written in Punycode.

A domain name of ASCII characters needs no table.  It must not hold any character that has a meaning
in a URL.  Lengths are not checked, and a label may be empty.
-/

namespace UrlFilter.Url.Domain

/-- Whether all characters are in ASCII. -/
def isAscii (t : Text) : Bool := t.all fun c => c.toNat < 128

/-- The ASCII characters that a domain name may not hold. -/
def isForbidden (c : Char) : Bool :=
  c ≤ ' ' || c == '\x7F' ||
    ['%', '#', '/', ':', '<', '>', '?', '@', '[', '\\', ']', '^', '|'].contains c

/-! ## Labels beyond ASCII -/

/-- Whether a label starts with a mark. -/
def startsWithMark (label : Text) : Bool := label.head?.any Unicode.isMark

/-- Whether a non-joiner between two texts, the first in reverse, breaks a cursive connection. -/
def breaksConnection (before after : Text) : Bool :=
  let skip := List.dropWhile fun (c : Char) => Unicode.transparentRanges.has c.toNat
  (skip before).head?.any (fun c => Unicode.joinsLeftRanges.has c.toNat) &&
    (skip after).head?.any (fun c => Unicode.joinsRightRanges.has c.toNat)

/-- Whether a text ends in reverse with a virama, behind which a joiner has an effect. -/
def followsVirama (before : Text) : Bool :=
  before.head?.any fun c => Unicode.combiningClass c == 9

/-- Whether every joiner of a text has an effect; `before` is the text before it in reverse. -/
def joinersFit (before : Text) : Text → Bool
  | [] => true
  | c :: r =>
    (if c = '\u200C' then followsVirama before || breaksConnection before r
      else if c = '\u200D' then followsVirama before
      else true) && joinersFit (c :: before) r

/-- Whether a label is valid on its own. -/
def isValidLabel (label : Text) : Bool := !startsWithMark label && joinersFit [] label

/-- Whether a text is what mapping and normalization leave. -/
def isStable (label : Text) : Bool :=
  label.all (fun c => mapChar c == some [c]) && Unicode.nfc label == label

/-- How many characters a label in Punycode may have. -/
def maxEncoded : Nat := 2000

/-- How many characters a label that is written in Punycode may have. -/
def maxDecoded : Nat := 1000

/-- The text of a label in Punycode, behind its mark. -/
def decodeLabel (code : Text) : Option Text :=
  if !isAscii code || code.isEmpty || code.getLast? == some '-' || maxEncoded < code.length then
    none
  else
    match Punycode.decode code with
    | some label => if isStable label && isValidLabel label then some label else none
    | none => none

/-- The mark of labels in Punycode. -/
def punycodeMark : Text := ['x', 'n', '-', '-']

/-- The text that a label stands for, if the label is valid. -/
def readLabel (label : Text) : Option Text :=
  match punycodeMark.isPrefixOf? label with
  | some code => decodeLabel code
  | none => if isAscii label || isValidLabel label then some label else none

/-- A label in ASCII. -/
def writeLabel (label : Text) : Option Text :=
  if isAscii label then some label
  else if maxDecoded < label.length then none
  else some (punycodeMark ++ Punycode.encode label)

/-! ## Directions -/

/-- Whether a character makes the directions of a name matter. -/
def isRightLeft (c : Char) : Bool :=
  let d := Unicode.direction c
  d == .rightLeft || d == .arabicNumber

/-- The directions of a label without the marks at its end, the last first. -/
def endDirections (directions : List Unicode.Direction) : List Unicode.Direction :=
  directions.reverse.dropWhile (· == .nonspacing)

/-- Whether the characters of a label may stand together, in a name that has letters from right to
left. -/
def directionsFit (label : Text) : Bool :=
  let directions := label.map Unicode.direction
  let last := (endDirections directions).head?
  match directions.head? with
  | none => true
  | some .rightLeft =>
    directions.all (fun d => d != .leftRight && d != .outside) &&
      (last == some .rightLeft || last == some .europeanNumber || last == some .arabicNumber) &&
      !(directions.contains .europeanNumber && directions.contains .arabicNumber)
  | some .leftRight =>
    directions.all (fun d => d != .rightLeft && d != .arabicNumber && d != .outside) &&
      (last == some .leftRight || last == some .europeanNumber)
  | some _ => false

/-- Whether the directions of all labels fit. -/
def allDirectionsFit (labels : List Text) : Bool :=
  !labels.any (fun label => !isAscii label && label.any isRightLeft) || labels.all directionsFit

/-! ## Names -/

/-- A text under mapping and normalization. -/
def normalize (t : Text) : Option Text :=
  match mapText t with
  | none => none
  | some mapped => some (if isAscii mapped then mapped else Unicode.nfc mapped)

/-- Puts a separator between each two texts. -/
def joinWith (c : Char) : List Text → Text
  | [] => []
  | [t] => t
  | t :: ts => t ++ c :: joinWith c ts

/-- A domain name in ASCII. -/
def toAscii (t : Text) : Option Text :=
  match normalize t with
  | none => none
  | some name =>
    if name.any isForbidden then none
    else
      match (name.splitOn '.').mapM readLabel with
      | none => none
      | some labels =>
        if labels.any (·.any isForbidden) || !allDirectionsFit labels then none
        else (labels.mapM writeLabel).map (joinWith '.')

end UrlFilter.Url.Domain
