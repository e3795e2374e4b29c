import UrlFilter.Json.Number
import UrlFilter.Json.Quoted

/-!
# Reading JSON values

Each reader here takes a value of one type from the front of a text.  A value of another type is a
fault that names the value.  Objects and arrays are read member by member: `nextKey` and
`nextElement` say whether there is another one, and step in front of it.
-/

namespace UrlFilter.Json

/-- Whether a character may stand between values. -/
def isSpace (c : Char) : Bool := c == ' ' || c == '\t' || c == '\n' || c == '\r'

/-- A text without the characters in front that may stand between values. -/
def skipSpaces (t : Text) : Text := t.dropWhile isSpace

/-! ## Values of any type -/

/-- Reads the letters of a word that are left. -/
def readWord : Text → Text → Except Fault Text
  | [], t => .ok t
  | _ :: _, [] => .error .endInValue
  | w :: ws, c :: r => if c = w then readWord ws r else .error .expectedWord

/-- Reads a value that is not the one expected, as far as it takes to name it. -/
def readFound (t : Text) : Except Fault Found :=
  match t with
  | [] => .error .endInValue
  | 'n' :: r => (readWord ['u', 'l', 'l'] r).map fun _ => .null
  | 't' :: r => (readWord ['r', 'u', 'e'] r).map fun _ => .bool true
  | 'f' :: r => (readWord ['a', 'l', 's', 'e'] r).map fun _ => .bool false
  | '-' :: r => (Number.read true r).map fun n => n.1.found
  | '"' :: r => (readQuoted r).map fun s => .string s.1
  | '[' :: _ => .ok .array
  | '\x7B' :: _ => .ok .object
  | _ =>
    if Number.startsWithDigit t then (Number.read false t).map fun n => n.1.found
    else .error .expectedValue

/-- The fault of a value that is not of the type expected. -/
def typeFault (expected : String) (t : Text) : Fault :=
  match readFound t with
  | .ok found => .wrongType found expected
  | .error fault => fault

/-! ## Values of one type -/

/-- A number as a natural number of 64 bits. -/
def naturalOf (expected : String) : Number → Except Fault UInt64
  | .natural n => .ok (UInt64.ofNat n)
  | .negative size => .error (.wrongValue (.negative size) expected)
  | .decimal d => .error (.wrongType (.decimal d) expected)

/-- Reads a natural number of 64 bits. -/
def readNatural (expected : String) (t : Text) : Except Fault (UInt64 × Text) := do
  let t := skipSpaces t
  let (number, rest) ←
    match t with
    | '-' :: r => Number.read true r
    | _ => if Number.startsWithDigit t then Number.read false t else throw (typeFault expected t)
  return (← naturalOf expected number, rest)

/-- Reads a string. -/
def readString (expected : String) (t : Text) : Except Fault (Text × Text) :=
  match skipSpaces t with
  | '"' :: r => readQuoted r
  | t => .error (typeFault expected t)

/-- Reads a string or the word `null`. -/
def readOptional (expected : String) (t : Text) : Except Fault (Option Text × Text) :=
  match skipSpaces t with
  | 'n' :: r => (readWord ['u', 'l', 'l'] r).map fun rest => (none, rest)
  | t => (readString expected t).map fun s => (some s.1, s.2)

/-! ## Objects and arrays -/

/-- The text behind a quote; anything else is no key. -/
def keyText : Text → Except Fault Text
  | '"' :: r => .ok r
  | _ => .error .keyNotString

/-- Steps in front of the text of the next key, behind its quote, or to the end of the object, which
is left. -/
def nextKey (isFirst : Bool) (t : Text) : Except Fault (Option Text) :=
  match skipSpaces t with
  | [] => .error .endInObject
  | '\x7D' :: _ => .ok none
  | c :: r =>
    if isFirst then (keyText (c :: r)).map some
    else if c = ',' then
      match skipSpaces r with
      | [] => .error .endInValue
      | '\x7D' :: _ => .error .trailingComma
      | t => (keyText t).map some
    else .error .expectedObjectEnd

/-- Steps behind the colon of a member. -/
def readColon (t : Text) : Except Fault Text :=
  match skipSpaces t with
  | [] => .error .endInObject
  | ':' :: r => .ok r
  | _ => .error .expectedColon

/-- Steps in front of the next element, or to the end of the array, which is left. -/
def nextElement (isFirst : Bool) (t : Text) : Except Fault (Option Text) :=
  match skipSpaces t with
  | [] => .error .endInArray
  | ']' :: _ => .ok none
  | c :: r =>
    if isFirst then .ok (some (c :: r))
    else if c = ',' then
      match skipSpaces r with
      | [] => .error .endInValue
      | ']' :: _ => .error .trailingComma
      | t => .ok (some t)
    else .error .expectedArrayEnd

/-- Steps behind the end of an array that may have no more elements. -/
def readArrayEnd (t : Text) : Except Fault Text :=
  match skipSpaces t with
  | [] => .error .endInArray
  | ']' :: r => .ok r
  | ',' :: r =>
    .error (if (skipSpaces r).head? = some ']' then .trailingComma else .trailingCharacters)
  | _ => .error .trailingCharacters

/-- Accepts the end of the whole text. -/
def readEnd (t : Text) : Except Fault Unit :=
  if (skipSpaces t).isEmpty then .ok () else .error .trailingCharacters

end UrlFilter.Json
