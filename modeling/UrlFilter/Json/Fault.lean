import UrlFilter.Decimal.Shortest
import UrlFilter.Decimal
import UrlFilter.Text.Visible

/-!
# Faults of JSON texts

A JSON text is read for a value of a certain type, from left to right, and the first fault ends the
reading.  It may lie in the text itself, or in a value that is well written and is not the one that
was expected.
-/

namespace UrlFilter.Json

/-- A value that was found, as far as a message tells. -/
inductive Found where
  /-- The word `null`. -/
  | null
  /-- A truth value. -/
  | bool (value : Bool)
  /-- A natural number. -/
  | natural (value : Nat)
  /-- A negative integer, by its size. -/
  | negative (size : Nat)
  /-- Any other number. -/
  | decimal (value : Decimal)
  /-- A string. -/
  | string (value : Text)
  /-- An array. -/
  | array
  /-- An object. -/
  | object
  deriving DecidableEq, Repr

/-- The words for a value that was found. -/
def Found.message : Found → String
  | null => "null"
  | bool value => if value then "boolean `true`" else "boolean `false`"
  | natural value => "integer `" ++ toString value ++ "`"
  | negative size => "integer `-" ++ toString size ++ "`"
  | decimal value =>
    "floating point `" ++ String.ofList ((value.toFloat?.map Shortest.write).getD []) ++ "`"
  | string value => "string " ++ String.ofList (Text.visible value)
  | array => "sequence"
  | object => "map"

/-- Why a JSON text is not what was expected. -/
inductive Fault where
  /-- The text ends where a value is needed or inside one. -/
  | endInValue
  /-- The text ends inside a string. -/
  | endInString
  /-- The text ends inside an array. -/
  | endInArray
  /-- The text ends inside an object. -/
  | endInObject
  /-- No value starts here. -/
  | expectedValue
  /-- The letters spell none of the words of JSON. -/
  | expectedWord
  /-- There is no colon behind a key. -/
  | expectedColon
  /-- There is neither a comma nor the end of the array behind an element. -/
  | expectedArrayEnd
  /-- There is neither a comma nor the end of the object behind a member. -/
  | expectedObjectEnd
  /-- A key is no string. -/
  | keyNotString
  /-- There is a comma behind the last element or member. -/
  | trailingComma
  /-- There is more text behind the value. -/
  | trailingCharacters
  /-- A number is not written as JSON writes them. -/
  | invalidNumber
  /-- A number exceeds double precision. -/
  | numberOutOfRange
  /-- An escape is none of JSON. -/
  | invalidEscape
  /-- The second half of a surrogate pair is missing. -/
  | missingSurrogate
  /-- A surrogate is no part of a pair. -/
  | loneSurrogate
  /-- A string holds a control character. -/
  | controlCharacter
  /-- An object has a member with an unknown key. -/
  | unknownField (name : Text) (known : List Text)
  /-- An object has two members with the same key. -/
  | duplicateField (name : Text)
  /-- A value is of another type than expected. -/
  | wrongType (found : Found) (expected : String)
  /-- A value is of the type expected and not in its range. -/
  | wrongValue (found : Found) (expected : String)
  deriving DecidableEq, Repr

/-- A name in a message. -/
def quoteName (name : Text) : String := "`" ++ String.ofList name ++ "`"

/-- The words for a fault. -/
def Fault.message : Fault → String
  | endInValue => "EOF while parsing a value"
  | endInString => "EOF while parsing a string"
  | endInArray => "EOF while parsing a list"
  | endInObject => "EOF while parsing an object"
  | expectedValue => "expected value"
  | expectedWord => "expected ident"
  | expectedColon => "expected `:`"
  | expectedArrayEnd => "expected `,` or `]`"
  | expectedObjectEnd => "expected `,` or `\x7D`"
  | keyNotString => "key must be a string"
  | trailingComma => "trailing comma"
  | trailingCharacters => "trailing characters"
  | invalidNumber => "invalid number"
  | numberOutOfRange => "number out of range"
  | invalidEscape => "invalid escape"
  | missingSurrogate => "unexpected end of hex escape"
  | loneSurrogate => "lone leading surrogate in hex escape"
  | controlCharacter => "control character (\\u0000-\\u001F) found while parsing a string"
  | unknownField name known =>
    "unknown field " ++ quoteName name ++ ", expected one of " ++
      ", ".intercalate (known.map quoteName)
  | duplicateField name => "duplicate field " ++ quoteName name
  | wrongType found expected => "invalid type: " ++ found.message ++ ", expected " ++ expected
  | wrongValue found expected => "invalid value: " ++ found.message ++ ", expected " ++ expected

end UrlFilter.Json
