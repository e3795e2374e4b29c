import UrlFilter.Text.Basic

/-!
# UTF-8

`encode` writes a text as bytes and `decode` reads bytes as a text.  Bytes that are no text are
refused with the index of the first character that cannot be read, and with the number of bytes that
are wrong there.  The number is missing where the bytes end inside a character that could still have
become valid.
-/

namespace UrlFilter

/-- A string of bytes. -/
abbrev Bytes := List UInt8

namespace Utf8

/-- Why bytes are no text. -/
inductive Fault where
  /-- So many bytes from an index on belong to no character. -/
  | invalid (length index : Nat)
  /-- The bytes end inside the character that starts at an index. -/
  | incomplete (index : Nat)
  deriving DecidableEq, Repr

/-- The words for a fault. -/
def Fault.message : Fault → String
  | invalid length index => s!"invalid utf-8 sequence of {length} bytes from index {index}"
  | incomplete index => s!"incomplete utf-8 byte sequence from index {index}"

/-- A text as bytes. -/
def encode (t : Text) : Bytes := t.flatMap String.utf8EncodeChar

/-- Whether a byte continues a character. -/
def continues (b : UInt8) : Bool := 0x80 ≤ b && b ≤ 0xBF

/-- How many bytes a character has that starts with a byte; zero where none does. -/
def width (b : UInt8) : Nat :=
  if b ≤ 0x7F then 1
  else if 0xC2 ≤ b && b ≤ 0xDF then 2
  else if 0xE0 ≤ b && b ≤ 0xEF then 3
  else if 0xF0 ≤ b && b ≤ 0xF4 then 4
  else 0

/-- Whether a second byte may follow a first: not every continuation follows every start. -/
def secondFits (first second : UInt8) : Bool :=
  if first = 0xE0 then 0xA0 ≤ second && second ≤ 0xBF
  else if first = 0xED then 0x80 ≤ second && second ≤ 0x9F
  else if first = 0xF0 then 0x90 ≤ second && second ≤ 0xBF
  else if first = 0xF4 then 0x80 ≤ second && second ≤ 0x8F
  else continues second

/-- The character that the bytes of a sequence stand for: the payload of the first byte in front of
six bits of each other one. -/
def charOf (payload : Nat) (rest : Bytes) : Char :=
  Char.ofNat (rest.foldl (fun n b => 64 * n + (b.toNat - 0x80)) payload)

/-- Puts a character in front of a text that was read. -/
def consResult (c : Char) : Except Fault Text → Except Fault Text
  | .ok t => .ok (c :: t)
  | .error fault => .error fault

/-- Reads bytes that start at an index. -/
def decodeFrom (index : Nat) : Bytes → Except Fault Text
  | [] => .ok []
  | a :: r =>
    match width a with
    | 1 => consResult (charOf a.toNat []) (decodeFrom (index + 1) r)
    | 2 =>
      match r with
      | [] => .error (.incomplete index)
      | b :: r =>
        if !secondFits a b then .error (.invalid 1 index)
        else consResult (charOf (a.toNat - 0xC0) [b]) (decodeFrom (index + 2) r)
    | 3 =>
      match r with
      | [] => .error (.incomplete index)
      | b :: r =>
        if !secondFits a b then .error (.invalid 1 index)
        else
          match r with
          | [] => .error (.incomplete index)
          | c :: r =>
            if !continues c then .error (.invalid 2 index)
            else consResult (charOf (a.toNat - 0xE0) [b, c]) (decodeFrom (index + 3) r)
    | 4 =>
      match r with
      | [] => .error (.incomplete index)
      | b :: r =>
        if !secondFits a b then .error (.invalid 1 index)
        else
          match r with
          | [] => .error (.incomplete index)
          | c :: r =>
            if !continues c then .error (.invalid 2 index)
            else
              match r with
              | [] => .error (.incomplete index)
              | d :: r =>
                if !continues d then .error (.invalid 3 index)
                else consResult (charOf (a.toNat - 0xF0) [b, c, d]) (decodeFrom (index + 4) r)
    | _ => .error (.invalid 1 index)

/-- Reads bytes as a text. -/
def decode (bytes : Bytes) : Except Fault Text := decodeFrom 0 bytes

/-- Whether bytes are a text. -/
def isText (bytes : Bytes) : Bool := (decode bytes).isOk

end Utf8

end UrlFilter
