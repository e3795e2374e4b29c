import UrlFilter.Matcher
import UrlFilter.Rule.Line

/-!
# Compiled rules

`Rule.compile` reads a line of a filter list and builds the matcher of its pattern.  Comments and
cosmetic rules have none.  The kind of matcher follows from the pattern alone: a regular expression
between slashes, a substring where no sign occurs, and a pattern otherwise.

A line that is no rule is refused with the trimmed line and the reason.
-/

namespace UrlFilter

/-- Why a line is no rule. -/
inductive RuleFault where
  /-- The line cannot be cut into a pattern and options. -/
  | line (fault : LineFault)
  /-- The pattern is a regular expression with nothing between its slashes. -/
  | emptyRegex
  /-- The pattern holds nothing but anchors. -/
  | onlyAnchors
  /-- The pattern is no regular expression, or too large a one. -/
  | regex (fault : Regex.Fault)
  deriving DecidableEq, Repr

/-- The words for the fault of a line. -/
def LineFault.message : LineFault → String
  | emptyRule => "empty rule"
  | emptyPattern => "empty pattern"
  | unterminatedRegex => "unterminated regular expression"

/-- The words for the fault of a rule. -/
def RuleFault.message : RuleFault → String
  | line fault => fault.message
  | emptyRegex => "empty regular expression"
  | onlyAnchors => "pattern has no content besides anchors"
  | regex fault => fault.message

/-- A line that is no rule. -/
structure InvalidRule where
  /-- The line, trimmed. -/
  rule : Text
  /-- What is wrong with it. -/
  reason : RuleFault
  deriving DecidableEq, Repr

/-- The words for a line that is no rule. -/
def InvalidRule.message (e : InvalidRule) : String :=
  "Invalid rule '" ++ String.ofList e.rule ++ "': " ++ e.reason.message

/-- A rule that is ready to be matched. -/
structure Rule where
  /-- What the rule is for. -/
  kind : RuleKind
  /-- The test for URLs; comments and cosmetic rules have none. -/
  matcher : Option Matcher
  /-- The options, which are kept and not enforced. -/
  options : List Text
  /-- The line of the rule, trimmed. -/
  source : Text
  deriving DecidableEq, Repr

namespace Rule

/-- Whether a rule allows the URLs it matches. -/
def isException (rule : Rule) : Bool := rule.kind == .exception

/-- Whether a rule is a comment. -/
def isComment (rule : Rule) : Bool := rule.kind == .comment

/-- Whether a rule is about the elements of a page. -/
def isCosmetic (rule : Rule) : Bool := rule.kind == .cosmetic

/-- Whether a rule matches a URL. -/
def accepts (rule : Rule) (url : Text) : Bool := rule.matcher.any fun m => m.accepts url

/-- Whether a character is a sign inside patterns. -/
def isSign (c : Char) : Bool := c == '*' || c == '^' || c == '|'

/-- Gives a fault of a regular expression as one of a rule. -/
def liftFault (result : Except Regex.Fault Matcher) : Except RuleFault Matcher :=
  match result with
  | .ok m => .ok m
  | .error fault => .error (.regex fault)

/-- The matcher of a pattern. -/
def compilePattern (pattern : Text) : Except RuleFault Matcher :=
  if pattern = ['/', '/'] then .error .emptyRegex
  else if RuleLine.isRegexPattern pattern then liftFault (Matcher.ofRegex pattern)
  else if pattern.all (· == '|') then .error .onlyAnchors
  else if pattern.any isSign then liftFault (Matcher.ofPattern pattern)
  else .ok (.ofSubstring pattern)

/-- The matcher of a line that has been read. -/
def compileLine (line : RuleLine) : Except RuleFault (Option Matcher) :=
  if line.kind.isMatchable then
    match compilePattern line.pattern with
    | .ok m => .ok (some m)
    | .error fault => .error fault
  else .ok none

/-- Compiles a line of a filter list. -/
def compile (line : Text) : Except InvalidRule Rule :=
  match RuleLine.parse line with
  | .error fault => .error ⟨line.trim, .line fault⟩
  | .ok read =>
    match compileLine read with
    | .error fault => .error ⟨read.source, fault⟩
    | .ok matcher => .ok ⟨read.kind, matcher, read.options, read.source⟩

end Rule

end UrlFilter
