import UrlFilter.Text.Utf8

/-!
# Paths

A path is kept as its parts between slashes, exactly as they were written: `Path.toText` gives the
text back.  Empty parts and dots have no effect when a path is followed.  A path whose first part is
empty, and is not its only one, starts at the root of all files.
-/

namespace UrlFilter

/-- The parts of a path between its slashes. -/
abbrev Path := List Text

namespace Path

/-- The path that a text writes. -/
def ofText (t : Text) : Path := t.splitOn '/'

/-- The text that writes a path. -/
def toText (p : Path) : Text := ['/'].intercalate p

/-- Whether a path starts at the root. -/
def isAbsolute : Path → Bool
  | [] :: _ :: _ => true
  | _ => false

/-- Whether nothing was written. -/
def isBlank : Path → Bool
  | [] | [[]] => true
  | _ => false

/-- The path without an empty part at its end. -/
def withoutEnd (p : Path) : Path := if p.getLast? = some [] then p.dropLast else p

/-- The path of a name inside the folder of a path. -/
def child (p : Path) (name : Text) : Path := p.withoutEnd ++ [name]

/-- Whether a part stays where it is. -/
def isStay (part : Text) : Bool := part == [] || part == ['.']

/-- Whether a part leads to the folder above. -/
def isUp (part : Text) : Bool := part == ['.', '.']

/-- The parts that lead elsewhere. -/
def moves (p : Path) : List Text := p.filter fun part => !isStay part

/-- The greatest number of bytes in a part. -/
def maxPart : Nat := 255

/-- Whether a part has too many bytes. -/
def isLongPart (part : Text) : Bool := maxPart < (Utf8.encode part).length

/-- The greatest number of bytes in a path. -/
def maxPath : Nat := 4095

/-- Whether a path has too many bytes. -/
def isLong (p : Path) : Bool := maxPath < (Utf8.encode p.toText).length

/-- Whether a path holds the character that no path may hold. -/
def holdsZero (p : Path) : Bool := p.any fun part => part.contains '\x00'

end Path

end UrlFilter
