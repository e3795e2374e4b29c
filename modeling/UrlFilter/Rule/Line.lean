import UrlFilter.Text.Basic

/-!
# Lines of a filter list

A line of a filter list is a comment, a cosmetic rule, an exception rule or a blocking rule.
`RuleLine.parse` reads one: it trims the line, decides its kind, and for the two kinds that are
matched against URLs separates the *pattern* from the *options* behind the last `$`.

The kinds are tried in a fixed order.

* comment: the line starts with `!`, or with the list header `[Adblock` in any case.
* cosmetic: the line holds one of the eight separators of `cosmeticSeparators`.
* exception: the line starts with `@@`.
* blocking: any other line.

The options are cut off the *body*, which is the line without the marker `@@` and the blanks
behind it.  A `$` inside `/…/` belongs to a regular expression, so a body that starts with `/`
keeps everything up to its last `/` when that slash ends the body or stands right before a `$`.
Any other body is cut at its last `$`.
-/

namespace UrlFilter

/-- What a line of a filter list is for. -/
inductive RuleKind where
  /-- A remark or a list header. -/
  | comment
  /-- A rule about the elements of a page, which matches no URL. -/
  | cosmetic
  /-- A rule that blocks the URLs it matches. -/
  | blocking
  /-- A rule that allows the URLs it matches. -/
  | exception
  deriving DecidableEq, Repr

/-- Whether rules of this kind are matched against URLs. -/
def RuleKind.isMatchable : RuleKind → Bool
  | .blocking | .exception => true
  | .comment | .cosmetic => false

/-- Why a line is no rule, before its pattern is looked at. -/
inductive LineFault where
  /-- The line holds nothing but blanks. -/
  | emptyRule
  /-- Nothing is left beside the marker and the options. -/
  | emptyPattern
  /-- The body starts with `/`, has no other and ends with `$`. -/
  | unterminatedRegex
  deriving DecidableEq, Repr

/-- A line that has been read: its kind, its pattern, its options and its own text. -/
structure RuleLine where
  /-- What the line is for. -/
  kind : RuleKind
  /-- The pattern without marker and options; empty for comments and cosmetic rules. -/
  pattern : Text
  /-- The options, trimmed, in the order of the line. -/
  options : List Text
  /-- The whole line, trimmed. -/
  source : Text
  deriving DecidableEq, Repr

namespace RuleLine

/-- The separators of cosmetic rules. -/
def cosmeticSeparators : List Text :=
  ["##".toList, "#@#".toList, "#?#".toList, "#@?#".toList,
    "#$#".toList, "#@$#".toList, "#%#".toList, "#@%#".toList]

/-- Whether a line holds a separator of cosmetic rules. -/
def isCosmetic (line : Text) : Bool := cosmeticSeparators.any fun s => Text.occursIn s line

/-- How the header of a list starts, in lower case. -/
def headerStart : Text := "[adblock".toList

/-- Whether a line starts as the header of a list does. -/
def isHeader (line : Text) : Bool :=
  Text.eqIgnoringAsciiCase (line.take headerStart.length) headerStart

/-- Whether a line is a comment or a list header. -/
def isComment (line : Text) : Bool := line.head? == some '!' || isHeader line

/-- The options of an options block: its pieces between commas, trimmed, without empty ones. -/
def splitOptions (block : Text) : List Text :=
  ((block.splitOn ',').map Text.trim).filter fun piece => !piece.isEmpty

/-- A body cut at its last `$`: the pattern before it and the options behind it. -/
def cutAtDollar (body : Text) : Text × List Text :=
  match Text.splitAtLast '$' body with
  | some (pattern, block) => (pattern.trimEnd, splitOptions block)
  | none => (body, [])

/-- The cut of a body that starts with `/`, where its last `/` decides it. -/
def cutAtSlash (body : Text) : Option (Text × List Text) :=
  match Text.splitAtLast '/' body with
  | some (_ :: _, []) => some (body, [])
  | some (c :: interior, '$' :: block) => some (c :: interior ++ ['/'], splitOptions block)
  | _ => none

/-- The pattern and the options of a body. -/
def cutBody (body : Text) : Except LineFault (Text × List Text) :=
  if body.head? = some '/' ∧ 1 < body.length then
    match cutAtSlash body with
    | some cut => .ok cut
    | none =>
      if body.getLast? = some '$' then .error .unterminatedRegex else .ok (cutAtDollar body)
  else .ok (cutAtDollar body)

/-- The marker of exception rules. -/
def exceptionMarker : Text := "@@".toList

/-- The kind of a rule that is matched against URLs, and its body. -/
def kindAndBody (line : Text) : RuleKind × Text :=
  match exceptionMarker.isPrefixOf? line with
  | some rest => (.exception, Text.trimStart rest)
  | none => (.blocking, line)

/-- A line whose text is not matched against URLs. -/
def unmatched (kind : RuleKind) (line : Text) : RuleLine := ⟨kind, [], [], line⟩

/-- Reads a line that is trimmed already. -/
def parseTrimmed (line : Text) : Except LineFault RuleLine :=
  if line.isEmpty then .error .emptyRule
  else if isComment line then .ok (unmatched .comment line)
  else if isCosmetic line then .ok (unmatched .cosmetic line)
  else
    let (kind, body) := kindAndBody line
    match cutBody body with
    | .error fault => .error fault
    | .ok (pattern, options) =>
      if pattern.isEmpty then .error .emptyPattern else .ok ⟨kind, pattern, options, line⟩

/-- Reads a line of a filter list. -/
def parse (line : Text) : Except LineFault RuleLine := parseTrimmed line.trim

/-- Whether a pattern is a regular expression between slashes. -/
def isRegexPattern (pattern : Text) : Bool :=
  2 < pattern.length && pattern.head? == some '/' && pattern.getLast? == some '/'

end RuleLine

end UrlFilter
