import UrlFilter.Unicode.Property

/-!
# Faults of regular expressions

A text is no regular expression for one of the reasons of `SyntaxFault`, which `message` words.
A text that is one can still be refused, because its compiled form would be too large.  `Fault`
joins the two.
-/

namespace UrlFilter.Regex

/-- Why a text is no regular expression. -/
inductive SyntaxFault where
  /-- An escape in a class that stands for no set of characters. -/
  | classEscape
  /-- A range of a class with its ends in the wrong order. -/
  | classRange
  /-- An end of a range that is no single character. -/
  | classRangeLiteral
  /-- A class without a closing bracket. -/
  | classUnclosed
  /-- A number above the bound of counts. -/
  | decimalTooLarge
  /-- Braces without a hexadecimal digit. -/
  | hexEmpty
  /-- A hexadecimal number that is no character. -/
  | hexNoCharacter
  /-- A character that is no hexadecimal digit. -/
  | hexDigit
  /-- A text that ends inside an escape. -/
  | escapeEnd
  /-- An escape that has no meaning. -/
  | escapeUnknown
  /-- A minus with no flag behind it. -/
  | flagDanglingMinus
  /-- A flag given twice. -/
  | flagDuplicate
  /-- A second minus among the flags. -/
  | flagSecondMinus
  /-- A text that ends inside the flags. -/
  | flagEnd
  /-- A character that is no flag. -/
  | flagUnknown
  /-- A name given to two groups. -/
  | nameDuplicate
  /-- A group with an empty name. -/
  | nameEmpty
  /-- A character that names may not hold. -/
  | nameCharacter
  /-- A name that does not end. -/
  | nameUnclosed
  /-- A group without a closing parenthesis. -/
  | groupUnclosed
  /-- A closing parenthesis without a group. -/
  | groupUnopened
  /-- Groups, classes and repetitions nested too deep. -/
  | nestLimit (limit : Nat)
  /-- A counted repetition whose least count is above its greatest. -/
  | countOrder
  /-- A counted repetition without a number where one must stand. -/
  | countEmpty
  /-- A counted repetition without a closing brace. -/
  | countUnclosed
  /-- A repetition of nothing. -/
  | repetitionMissing
  /-- A named word boundary that does not end or holds a character no name has. -/
  | boundaryUnclosed
  /-- A named word boundary of no known name. -/
  | boundaryUnknown
  /-- A text that ends behind the brace of a word boundary. -/
  | boundaryEnd
  /-- A one-letter property whose letter is a backslash. -/
  | propertyLetter
  /-- A reference to what a group matched. -/
  | backreference
  /-- A test of what comes before or behind. -/
  | lookaround
  /-- A class beyond ASCII where only ASCII is matched. -/
  | unicodeNotAllowed
  /-- A class that would match a part of a character. -/
  | invalidUtf8
  /-- A property that cannot be looked up. -/
  | property (fault : Unicode.PropertyFault)
  deriving DecidableEq, Repr

/-- The words for a fault. -/
def SyntaxFault.message : SyntaxFault → String
  | classEscape => "invalid escape sequence found in character class"
  | classRange => "invalid character class range, the start must be <= the end"
  | classRangeLiteral => "invalid range boundary, must be a literal"
  | classUnclosed => "unclosed character class"
  | decimalTooLarge => "decimal literal invalid"
  | hexEmpty => "hexadecimal literal empty"
  | hexNoCharacter => "hexadecimal literal is not a Unicode scalar value"
  | hexDigit => "invalid hexadecimal digit"
  | escapeEnd => "incomplete escape sequence, reached end of pattern prematurely"
  | escapeUnknown => "unrecognized escape sequence"
  | flagDanglingMinus => "dangling flag negation operator"
  | flagDuplicate => "duplicate flag"
  | flagSecondMinus => "flag negation operator repeated"
  | flagEnd => "expected flag but got end of regex"
  | flagUnknown => "unrecognized flag"
  | nameDuplicate => "duplicate capture group name"
  | nameEmpty => "empty capture group name"
  | nameCharacter => "invalid capture group character"
  | nameUnclosed => "unclosed capture group name"
  | groupUnclosed => "unclosed group"
  | groupUnopened => "unopened group"
  | nestLimit limit => s!"exceed the maximum number of nested parentheses/brackets ({limit})"
  | countOrder => "invalid repetition count range, the start must be <= the end"
  | countEmpty => "repetition quantifier expects a valid decimal"
  | countUnclosed => "unclosed counted repetition"
  | repetitionMissing => "repetition operator missing expression"
  | boundaryUnclosed =>
    "special word boundary assertion is either unclosed or contains an invalid character"
  | boundaryUnknown =>
    "unrecognized special word boundary assertion, " ++
      "valid choices are: start, end, start-half or end-half"
  | boundaryEnd =>
    "found either the beginning of a special word boundary or a bounded repetition on a \\b " ++
      "with an opening brace, but no closing brace"
  | propertyLetter => "invalid Unicode character class"
  | backreference => "backreferences are not supported"
  | lookaround => "look-around, including look-ahead and look-behind, is not supported"
  | unicodeNotAllowed => "Unicode not allowed here"
  | invalidUtf8 => "pattern can match invalid UTF-8"
  | property .unknownProperty => "Unicode property not found"
  | property .unknownValue => "Unicode property value not found"

/-- Why a text cannot be matched as a regular expression. -/
inductive Fault where
  /-- The text is no regular expression. -/
  | malformed (fault : SyntaxFault)
  /-- The compiled form would take more bytes than the limit. -/
  | tooLarge (limit : Nat)
  deriving DecidableEq, Repr

/-- The words for a fault. -/
def Fault.message : Fault → String
  | malformed fault => "regex parse error: " ++ fault.message
  | tooLarge limit => s!"Compiled regex exceeds size limit of {limit} bytes."

end UrlFilter.Regex
