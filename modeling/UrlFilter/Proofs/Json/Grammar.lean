import Mathlib.Data.List.Forall2
import UrlFilter.Text.Basic

/-!
# The grammar of JSON

Which texts write which values of JSON.  Nothing here follows a reader or a writer: the grammar
says what may be written, and that a text is written with more escapes or blanks than another does
not change what it says.

*Strings.*  A string is a text of Unicode characters (`Spells`).  A character may stand for itself,
as a letter behind a backslash, or as its number: one unit of 16 bits, or two of them for a
character beyond those, in digits of either case (`SpellsChar`).

*Numbers.*  A natural number has one spelling, its decimal digits.  Numbers with a sign, a fraction
or an exponent are kept apart from it, whatever their value is (`OtherNumber`).

*Values.*  `Writes` is a value without blanks at its ends, `IsText` one with them.  The elements of
an array and the values of members are such texts again, and so is a whole document.
-/

namespace UrlFilter.Json

/-! ## Blanks -/

/-- The text holds nothing but characters that may stand between values. -/
def Spaces (t : Text) : Prop := ∀ c ∈ t, c ∈ [' ', '\t', '\n', '\r']

instance (t : Text) : Decidable (Spaces t) :=
  List.decidableBAll (fun c => c ∈ [' ', '\t', '\n', '\r']) t

theorem spaces_nil : Spaces [] := List.forall_mem_nil _

/-! ## Strings -/

/-- The letters of escapes, each with the character it stands for. -/
def letters : List (Char × Char) :=
  [('"', '"'), ('\\', '\\'), ('/', '/'), ('b', '\x08'), ('f', '\x0C'), ('n', '\n'), ('r', '\r'),
    ('t', '\t')]

/-- A character is the hexadecimal digit of a number, in either case. -/
inductive HexDigit : Nat → Char → Prop where
  | lower {n : Nat} : n < 16 → HexDigit n (Nat.digitChar n)
  | upper {n : Nat} : n < 16 → HexDigit n (Nat.digitChar n).toUpper

/-- Four hexadecimal digits write a unit of 16 bits. -/
inductive WritesUnit : Nat → Text → Prop where
  | digits {i j k l : Nat} {a b c d : Char} :
    HexDigit i a → HexDigit j b → HexDigit k c → HexDigit l d →
    WritesUnit (4096 * i + 256 * j + 16 * k + l) [a, b, c, d]

/-- A text spells a character inside a string. -/
inductive SpellsChar : Char → Text → Prop where
  | plain {c : Char} : ' ' ≤ c → c ≠ '"' → c ≠ '\\' → SpellsChar c [c]
  | letter {e c : Char} : (e, c) ∈ letters → SpellsChar c ['\\', e]
  | unit {c : Char} {t : Text} : WritesUnit c.toNat t → SpellsChar c ('\\' :: 'u' :: t)
  | pair {c : Char} {high low : Nat} {t u : Text} :
    c.toNat = 0x10000 + 1024 * high + low → low < 1024 →
    WritesUnit (0xD800 + high) t → WritesUnit (0xDC00 + low) u →
    SpellsChar c ('\\' :: 'u' :: t ++ '\\' :: 'u' :: u)

/-- A text spells another inside a string. -/
inductive Spells : Text → Text → Prop where
  | nil : Spells [] []
  | cons {c : Char} {s t u : Text} : SpellsChar c t → Spells s u → Spells (c :: s) (t ++ u)

/-- A text is written as a string, between quotes. -/
inductive Quotes : Text → Text → Prop where
  | mk {s t : Text} : Spells s t → Quotes s ('"' :: t ++ ['"'])

/-! ## Numbers -/

/-- One decimal digit or more. -/
def Digits (t : Text) : Prop := t ≠ [] ∧ ∀ c ∈ t, c.isDigit = true

/-- The fraction of a number, if it has one. -/
inductive Fraction : Text → Prop where
  | none : Fraction []
  | point {t : Text} : Digits t → Fraction ('.' :: t)

/-- The exponent of a number, if it has one. -/
inductive Exponent : Text → Prop where
  | none : Exponent []
  | mark {e : Char} {sign t : Text} :
    e ∈ ['e', 'E'] → sign ∈ [[], ['+'], ['-']] → Digits t → Exponent (e :: (sign ++ t))

/-- A number with a sign, a fraction or an exponent. -/
inductive OtherNumber : Text → Prop where
  | negative {n : Nat} {f e : Text} :
    Fraction f → Exponent e → OtherNumber ('-' :: (Nat.toDigits 10 n ++ (f ++ e)))
  | decimal {n : Nat} {f e : Text} :
    Fraction f → Exponent e → f ++ e ≠ [] → OtherNumber (Nat.toDigits 10 n ++ (f ++ e))

/-! ## Values -/

/-- The values of JSON. -/
inductive Value where
  /-- The word `null`. -/
  | null
  /-- A truth value. -/
  | bool (value : Bool)
  /-- A natural number, without a fraction or an exponent. -/
  | natural (value : Nat)
  /-- Any other number, as it is written. -/
  | number (text : Text)
  /-- A string. -/
  | string (value : Text)
  /-- An array of its elements. -/
  | array (elements : List Value)
  /-- An object of its members, each with its key, in the order in which they are written. -/
  | object (members : List (Text × Value))

mutual

/-- A text writes a value, without blanks at its ends. -/
inductive Writes : Value → Text → Prop where
  | null : Writes .null "null".toList
  | true : Writes (.bool true) "true".toList
  | false : Writes (.bool false) "false".toList
  | natural {n : Nat} : Writes (.natural n) (Nat.toDigits 10 n)
  | number {t : Text} : OtherNumber t → Writes (.number t) t
  | string {s t : Text} : Quotes s t → Writes (.string s) t
  | noElements {w : Text} : Spaces w → Writes (.array []) ('[' :: w ++ [']'])
  | array {v : Value} {vs : List Value} {t : Text} {ts : List Text} :
    IsText v t → List.Forall₂ IsText vs ts →
    Writes (.array (v :: vs)) ('[' :: [','].intercalate (t :: ts) ++ [']'])
  | noMembers {w : Text} : Spaces w → Writes (.object []) ('\x7B' :: w ++ ['\x7D'])
  | object {m : Text × Value} {ms : List (Text × Value)} {t : Text} {ts : List Text} :
    WritesMember m t → List.Forall₂ WritesMember ms ts →
    Writes (.object (m :: ms)) ('\x7B' :: [','].intercalate (t :: ts) ++ ['\x7D'])

/-- A text writes a value, with blanks at its ends or without. -/
inductive IsText : Value → Text → Prop where
  | mk {v : Value} {w t x : Text} : Spaces w → Writes v t → Spaces x → IsText v (w ++ (t ++ x))

/-- A text writes a member of an object. -/
inductive WritesMember : Text × Value → Text → Prop where
  | mk {key : Text} {v : Value} {w k x t : Text} :
    Spaces w → Quotes key k → Spaces x → IsText v t →
    WritesMember (key, v) (w ++ (k ++ (x ++ ':' :: t)))

end

end UrlFilter.Json
