import UrlFilter.Json.Fault

/-!
# Numbers in JSON

A number is read into the narrowest of three forms: a natural number of 64 bits, a negative integer
of 64 bits, or a decimal.  Minus zero is a decimal, and so is an integer that is too large.
-/

namespace UrlFilter.Json

/-- A number that was read. -/
inductive Number where
  /-- A natural number of 64 bits. -/
  | natural (value : Nat)
  /-- A negative integer of 64 bits, by its size. -/
  | negative (size : Nat)
  /-- Any other number. -/
  | decimal (value : Decimal)
  deriving DecidableEq, Repr

/-- A number as a value that was found. -/
def Number.found : Number → Found
  | natural value => .natural value
  | negative size => .negative size
  | decimal value => .decimal value

namespace Number

/-- Whether a character is a decimal digit. -/
def isDigit (c : Char) : Bool := '0' ≤ c && c ≤ '9'

/-- The value of a decimal digit. -/
def digitValue (c : Char) : Nat := c.toNat - '0'.toNat

/-- The digits in front of a text, as long as they fit behind those read, with how many there are;
and the rest. -/
def readDigits (value count : Nat) : Text → Nat × Nat × Text
  | [] => (value, count, [])
  | c :: r =>
    if isDigit c ∧ 10 * value + digitValue c ≤ Decimal.maxDigits then
      readDigits (10 * value + digitValue c) (count + 1) r
    else (value, count, c :: r)

/-- Whether a text starts with a digit. -/
def startsWithDigit (t : Text) : Bool := t.head?.any isDigit

/-- Whether a text starts with the mark of an exponent. -/
def startsWithMark (t : Text) : Bool := t.head?.any fun c => c == 'e' || c == 'E'

/-- A decimal, if it is not too large. -/
def ofDecimal (d : Decimal) (rest : Text) : Except Fault (Number × Text) :=
  if d.toFloat?.isSome then .ok (.decimal d, rest) else .error .numberOutOfRange

/-- The sign in front of the digits of an exponent, and the rest. -/
def readSign : Text → Bool × Text
  | '+' :: r => (false, r)
  | '-' :: r => (true, r)
  | r => (false, r)

/-- Reads an exponent behind its mark. -/
def readExponent (d : Decimal) (t : Text) : Except Fault (Number × Text) :=
  let (isNegative, t) := readSign t
  if t.isEmpty then .error .endInValue
  else if !startsWithDigit t then .error .invalidNumber
  else
    let n : Int := (t.takeWhile isDigit).foldl (fun n c => 10 * n + digitValue c) 0
    ofDecimal ⟨d.isNegative, d.digits, d.exponent + if isNegative then -n else n⟩
      (t.dropWhile isDigit)

/-- Reads what may follow the digits of a decimal: an exponent. -/
def readEnd (d : Decimal) (t : Text) : Except Fault (Number × Text) :=
  if startsWithMark t then readExponent d (t.drop 1) else ofDecimal d t

/-- Reads the digits behind a point.  Those that do not fit are passed over. -/
def readFraction (d : Decimal) (t : Text) : Except Fault (Number × Text) :=
  let (digits, count, rest) := readDigits d.digits 0 t
  if count = 0 ∧ !startsWithDigit rest then
    .error (if rest.isEmpty then .endInValue else .invalidNumber)
  else readEnd ⟨d.isNegative, digits, d.exponent - count⟩ (rest.dropWhile isDigit)

/-- Reads what may follow the digits of an integer. -/
def readTail (d : Decimal) (t : Text) : Except Fault (Number × Text) :=
  match t with
  | '.' :: r => readFraction d r
  | _ => readEnd d t

/-- An integer, as a decimal where it must be one. -/
def ofInteger (isNegative : Bool) (n : Nat) : Number :=
  if !isNegative then .natural n
  else if n = 0 ∨ Nat.pow 2 63 < n then .decimal ⟨true, n, 0⟩
  else .negative n

/-- Reads a number behind its sign. -/
def read (isNegative : Bool) (t : Text) : Except Fault (Number × Text) :=
  if t.isEmpty then .error .endInValue
  else if !startsWithDigit t then .error .invalidNumber
  else if t.head? = some '0' ∧ startsWithDigit (t.drop 1) then .error .invalidNumber
  else
    let (digits, _, rest) := readDigits 0 0 t
    if startsWithDigit rest then
      readTail ⟨isNegative, digits, (rest.takeWhile isDigit).length⟩ (rest.dropWhile isDigit)
    else if rest.head? = some '.' ∨ startsWithMark rest then
      readTail ⟨isNegative, digits, 0⟩ rest
    else .ok (ofInteger isNegative digits, rest)

end Number

end UrlFilter.Json
