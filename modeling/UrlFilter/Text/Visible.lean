import UrlFilter.Text.Basic
import UrlFilter.Unicode.Invisible

/-!
# Texts made visible

A text from outside that appears in a message is put between quotes, and every character in it that
could not be seen is written as an escape: line breaks and the like by a letter, and the others by
their number.  A mark that extends the character in front of it counts as one that could not be
seen.
-/

namespace UrlFilter.Text

/-- Whether a character can be seen for itself. -/
def isVisible (c : Char) : Bool :=
  if c.toNat < 128 then ' ' ≤ c && c ≤ '~' else !Unicode.invisibleRanges.has c.toNat

/-- A character by its number. -/
def numberEscape (c : Char) : Text :=
  ['\\', 'u', '\x7B'] ++ Nat.toDigits 16 c.toNat ++ ['\x7D']

/-- A character inside quotes. -/
def visibleChar (c : Char) : Text :=
  if c = '\x00' then ['\\', '0']
  else if c = '\t' then ['\\', 't']
  else if c = '\r' then ['\\', 'r']
  else if c = '\n' then ['\\', 'n']
  else if c = '\\' ∨ c = '"' then ['\\', c]
  else if isVisible c then [c]
  else numberEscape c

/-- A text between quotes. -/
def visible (t : Text) : Text := '"' :: t.flatMap visibleChar ++ ['"']

end UrlFilter.Text
