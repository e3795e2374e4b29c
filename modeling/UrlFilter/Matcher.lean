import UrlFilter.Pattern
import UrlFilter.Rule.Line
import UrlFilter.Unicode.Lowercase
import UrlFilter.Unicode.Uppercase

/-!
# Matchers

A matcher decides whether a rule applies to a URL.  There are three kinds, from the cheapest to the
most general: a piece of text that the URL holds, a pattern with signs, and a regular expression.
All of them disregard case.

A substring is kept in lower case.  A URL is taken to lower case only if it holds an upper-case
character.
-/

namespace UrlFilter

/-- A test that URLs pass or fail. -/
inductive Matcher where
  /-- The URL holds a text, which is in lower case. -/
  | substring (needle : Text)
  /-- The URL matches a pattern, written as a regular expression. -/
  | pattern (written : Text) (compiled : Regex)
  /-- The URL matches a regular expression. -/
  | regex (written : Text) (compiled : Regex)
  deriving DecidableEq, Repr

namespace Matcher

/-- The matcher of a text without signs. -/
def ofSubstring (text : Text) : Matcher := .substring (Unicode.lowercase text)

/-- The matcher of a pattern with signs. -/
def ofPattern (text : Text) : Except Regex.Fault Matcher := do
  let compiled ← Regex.compile (Pattern.expression text)
  return .pattern (Pattern.expression text) compiled

/-- The matcher of a regular expression. -/
def ofExpression (expression : Text) : Except Regex.Fault Matcher := do
  let compiled ← Regex.compile expression
  return .regex expression compiled

/-- The regular expression between the slashes of a pattern, or the whole pattern. -/
def interior (text : Text) : Text :=
  match text with
  | '/' :: r => (['/'].isSuffixOf? r).getD text
  | _ => text

/-- The matcher of a regular expression between slashes. -/
def ofRegex (text : Text) : Except Regex.Fault Matcher := ofExpression (interior text)

/-- The text or the regular expression that a matcher looks for. -/
def expression : Matcher → Text
  | .substring needle => needle
  | .pattern written _ => written
  | .regex written _ => written

/-- Whether a text holds a lower-case text in either case. -/
def holdsIgnoringCase (needle t : Text) : Bool :=
  if t.any Unicode.isUppercase then Text.occursIn needle (Unicode.lowercase t)
  else Text.occursIn needle t

/-- Whether a URL passes the test. -/
def accepts (m : Matcher) (url : Text) : Bool :=
  match m with
  | .substring needle => holdsIgnoringCase needle url
  | .pattern _ compiled => compiled.isMatch url
  | .regex _ compiled => compiled.isMatch url

end Matcher

end UrlFilter
