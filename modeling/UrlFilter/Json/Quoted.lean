import UrlFilter.Json.Fault
import UrlFilter.Text.Reader
import UrlFilter.Text.Utf8

/-!
# Strings in JSON

A string stands between quotes.  Quotes, backslashes and control characters inside it are written as
escapes, and any other character may be.  An escape by number counts in units of 16 bits, so that a
character beyond them takes two, which are called surrogates.

`quote` writes a string with as few escapes as possible, and `readQuoted` reads any.
-/

namespace UrlFilter.Json

/-! ## Writing -/

/-- A control character as an escape by number. -/
def controlEscape (c : Char) : Text :=
  ['\\', 'u', '0', '0', Nat.digitChar (c.toNat / 16), Nat.digitChar (c.toNat % 16)]

/-- A character inside a string. -/
def quoteChar (c : Char) : Text :=
  if c = '"' ∨ c = '\\' then ['\\', c]
  else if ' ' ≤ c then [c]
  else if c = '\x08' then ['\\', 'b']
  else if c = '\t' then ['\\', 't']
  else if c = '\n' then ['\\', 'n']
  else if c = '\x0C' then ['\\', 'f']
  else if c = '\r' then ['\\', 'r']
  else controlEscape c

/-- A text as a string. -/
def quote (t : Text) : Text := '"' :: t.flatMap quoteChar ++ ['"']

/-! ## Reading -/

/-- The value of a hexadecimal digit. -/
def hexDigit? (c : Char) : Option Nat :=
  if '0' ≤ c ∧ c ≤ '9' then some (c.toNat - '0'.toNat)
  else if 'a' ≤ c ∧ c ≤ 'f' then some (c.toNat - 'a'.toNat + 10)
  else if 'A' ≤ c ∧ c ≤ 'F' then some (c.toNat - 'A'.toNat + 10)
  else none

/-- The number of four hexadecimal digits, with the rest of the text. -/
def hexUnit? : Text → Option (Nat × Text)
  | a :: b :: c :: d :: r =>
    match hexDigit? a, hexDigit? b, hexDigit? c, hexDigit? d with
    | some a, some b, some c, some d => some (4096 * a + 256 * b + 16 * c + d, r)
    | _, _, _, _ => none
  | _ => none

/-- Reads the unit of an escape by number.  Fewer than four bytes are taken for the end of the
text. -/
def readUnit (t : Text) : Except Fault (Nat × Text) :=
  match hexUnit? t with
  | some result => .ok result
  | none => .error (if (Utf8.encode t).length < 4 then .endInString else .invalidEscape)

/-- Whether a unit is the first half of a surrogate pair. -/
def isLeading (unit : Nat) : Bool := 0xD800 ≤ unit && unit ≤ 0xDBFF

/-- Whether a unit is the second half of a surrogate pair. -/
def isTrailing (unit : Nat) : Bool := 0xDC00 ≤ unit && unit ≤ 0xDFFF

/-- The character of a surrogate pair. -/
def pairChar (leading trailing : Nat) : Char :=
  Char.ofNat ((leading - 0xD800) * 1024 + (trailing - 0xDC00) + 0x10000)

/-- Reads the second half of a surrogate pair. -/
def readTrailing (leading : Nat) (t : Text) : Except Fault (Char × Text) :=
  match t with
  | '\\' :: 'u' :: r =>
    match readUnit r with
    | .error fault => .error fault
    | .ok (unit, rest) =>
      if isTrailing unit then .ok (pairChar leading unit, rest) else .error .loneSurrogate
  | [] | '\\' :: [] => .error .endInString
  | _ => .error .missingSurrogate

/-- Reads an escape by number, behind the letter. -/
def readNumbered (t : Text) : Except Fault (Char × Text) :=
  match readUnit t with
  | .error fault => .error fault
  | .ok (unit, rest) =>
    if isTrailing unit then .error .loneSurrogate
    else if isLeading unit then readTrailing unit rest
    else .ok (Char.ofNat unit, rest)

/-- The character that a letter stands for in an escape. -/
def letterEscape? (c : Char) : Option Char :=
  match c with
  | '"' => some '"'
  | '\\' => some '\\'
  | '/' => some '/'
  | 'b' => some '\x08'
  | 'f' => some '\x0C'
  | 'n' => some '\n'
  | 'r' => some '\r'
  | 't' => some '\t'
  | _ => none

/-- Reads an escape behind its backslash. -/
def readEscape : Text → Except Fault (Char × Text)
  | [] => .error .endInString
  | 'u' :: r => readNumbered r
  | c :: r =>
    match letterEscape? c with
    | some e => .ok (e, r)
    | none => .error .invalidEscape

/-- Reads the next piece of a string, behind characters that were read, latest first. -/
def quotedStep (before t : Text) : Except Fault (Text.Progress Text Text) :=
  match t with
  | [] => .error .endInString
  | '"' :: r => .ok (.done before.reverse r)
  | '\\' :: r =>
    match readEscape r with
    | .error fault => .error fault
    | .ok (c, rest) => .ok (.more (c :: before) rest)
  | c :: r => if c < ' ' then .error .controlCharacter else .ok (.more (c :: before) r)

/-- Reads a string behind its first quote, and gives the rest. -/
def readQuoted (t : Text) : Except Fault (Text × Text) :=
  Text.loop .endInString quotedStep [] t

end UrlFilter.Json
