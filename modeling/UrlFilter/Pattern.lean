import UrlFilter.Regex.Matching

/-!
# Patterns

A pattern describes URLs with a few signs of its own: `*` stands for any characters, `^` for a
separator or the end, `||` in front for a position where a domain may start, and `|` at either end
for that end of the URL.  Every other character stands for itself, up to case.

A pattern is matched by writing it as a regular expression.  `Pattern.expression` does so: the
signs become the pieces defined here, and each run of other characters is escaped as a whole.
-/

namespace UrlFilter

/-! ## Escaping -/

/-- A character written so that it stands for itself in a regular expression. -/
def Regex.escapeChar (c : Char) : Text := if Regex.isMeta c then ['\\', c] else [c]

/-- A text written so that it stands for itself in a regular expression. -/
def Regex.escape (t : Text) : Text := t.flatMap Regex.escapeChar

namespace Pattern

/-! ## The pieces of an expression -/

/-- Where a match has to start. -/
inductive Anchor where
  /-- Anywhere. -/
  | anywhere
  /-- At the start of the URL. -/
  | start
  /-- At the start of the domain or of one of the domains above it. -/
  | domain
  deriving DecidableEq, Repr

/-- The start of the URL, a scheme after it, and labels of a domain after that. -/
def domainAnchor : Text := "^(?:[^:/?#]+:)?(?://(?:[^/?#]*\\.)?)?".toList

/-- One character that cannot be part of a name, or the end of the URL. -/
def separator : Text := "(?:[^\\w\\-.%^]|$)".toList

/-- An anchor as a regular expression. -/
def Anchor.expression : Anchor → Text
  | .anywhere => []
  | .start => ['^']
  | .domain => domainAnchor

/-- What a sign inside a pattern stands for; `none` for a character that stands for itself. -/
def signExpression : Char → Option Text
  | '*' => some ['.', '*']
  | '^' => some separator
  | '|' => some ['\\', '|']
  | _ => none

/-! ## The expression of a pattern -/

/-- A pattern cut into its anchors and what stands between them. -/
structure Parts where
  /-- Where a match has to start. -/
  anchor : Anchor
  /-- The signs and characters between the anchors. -/
  body : Text
  /-- Whether a match has to end at the end of the URL. -/
  endAnchored : Bool
  deriving DecidableEq, Repr

/-- The anchor in front of a pattern, and the rest. -/
def cutStart : Text → Anchor × Text
  | '|' :: '|' :: r => (.domain, r)
  | '|' :: r => (.start, r)
  | r => (.anywhere, r)

/-- Cuts a pattern into its parts: the anchor in front is taken first. -/
def parts (pattern : Text) : Parts :=
  let (anchor, rest) := cutStart pattern
  match ['|'].isSuffixOf? rest with
  | some body => ⟨anchor, body, true⟩
  | none => ⟨anchor, rest, false⟩

/-- Writes what stands between the anchors, behind characters that are not yet escaped. -/
def writeBody (pending : Text) : Text → Text
  | [] => Regex.escape pending
  | c :: r =>
    match signExpression c with
    | some sign => Regex.escape pending ++ sign ++ writeBody [] r
    | none => writeBody (pending ++ [c]) r

/-- The regular expression of a pattern. -/
def expression (pattern : Text) : Text :=
  let p := parts pattern
  p.anchor.expression ++ writeBody [] p.body ++ if p.endAnchored then ['$'] else []

end Pattern

end UrlFilter
