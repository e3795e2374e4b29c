import UrlFilter.Text.Basic

/-!
# Lines

A line break is a line feed, a carriage return, or a carriage return with the line feed that
follows it.  `splitLines` cuts a text at every break and drops the breaks, so a text with `n`
breaks has `n + 1` lines, the last of them empty where the text ends with a break.
-/

namespace UrlFilter.Text

/-- Puts a character at the start of the first line. -/
def consLine (c : Char) : List Text → List Text
  | [] => [[c]]
  | l :: ls => (c :: l) :: ls

/-- The lines of a text, without the breaks between them. -/
def splitLines : Text → List Text
  | [] => [[]]
  | '\r' :: '\n' :: r => [] :: splitLines r
  | c :: r => if c = '\r' ∨ c = '\n' then [] :: splitLines r else consLine c (splitLines r)

/-- Every text has a line, the empty text an empty one. -/
theorem splitLines_ne_nil (t : Text) : splitLines t ≠ [] := by
  fun_cases splitLines t with
  | case1 => simp
  | case2 r => simp
  | case3 c r _ h => simp
  | case4 c r _ h => cases splitLines r <;> simp [consLine]

end UrlFilter.Text
