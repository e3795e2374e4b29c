import UrlFilter.Text.Basic

/-!
# Network addresses

The host of a URL may be an address instead of a name.  A name whose last label is a number is read
as an address of version 4: up to four numbers between dots, in decimal, octal or hexadecimal, of
which the last fills the bytes that are left.  An address of version 6 stands in brackets: eight
pieces of up to four hexadecimal digits between colons.  One run of zero pieces may be left out, and
the last two pieces may be written as an address of version 4.
-/

namespace UrlFilter.Url

/-! ## Version 4 -/

namespace Ipv4

/-- The value of a digit in a base, if it is one. -/
def digit? (base : Nat) (c : Char) : Option Nat :=
  let n :=
    if '0' ≤ c ∧ c ≤ '9' then c.toNat - 48
    else if 'a' ≤ c ∧ c ≤ 'f' then c.toNat - 87
    else if 'A' ≤ c ∧ c ≤ 'F' then c.toNat - 55
    else base
  if n < base then some n else none

/-- The number that digits in a base stand for. -/
def number? (base : Nat) (digits : Text) : Option Nat :=
  digits.foldl (fun sum c => do return (← sum) * base + (← digit? base c)) (some 0)

/-- The number of a part, whose start tells the base. -/
def part? (part : Text) : Option Nat :=
  match part with
  | [] => none
  | '0' :: 'x' :: r => number? 16 r
  | '0' :: 'X' :: r => number? 16 r
  | '0' :: c :: r => number? 8 (c :: r)
  | _ => number? 10 part

/-- The parts of a name between its dots, without an empty one at the end. -/
def parts (name : Text) : List Text :=
  let parts := name.splitOn '.'
  if parts.getLast? == some [] then parts.dropLast else parts

/-- Whether a name has to be an address. -/
def endsInNumber (name : Text) : Bool :=
  match (parts name).getLast? with
  | none => false
  | some last =>
    (!last.isEmpty && last.all fun c => '0' ≤ c && c ≤ '9') || (part? last).isSome

/-- The address of some numbers: all but the last are bytes. -/
def ofNumbers (numbers : List Nat) : Option Nat :=
  match numbers.reverse with
  | [] => none
  | last :: front =>
    let unit := Nat.pow 256 (4 - front.length)
    if 3 < front.length ∨ unit ≤ last ∨ front.any (255 < ·) then none
    else some (front.reverse.foldl (fun sum n => sum * 256 + n) 0 * unit + last)

/-- The address that a name stands for. -/
def parse? (name : Text) : Option Nat := do
  let numbers ← (parts name).mapM part?
  ofNumbers numbers

end Ipv4

/-! ## Version 6 -/

namespace Ipv6

/-- The value of a hexadecimal digit. -/
def hex? (c : Char) : Option Nat := Ipv4.digit? 16 c

/-- The value of up to so many hexadecimal digits in front of a text, and the rest. -/
def readPiece (digits value : Nat) : Text → Nat × Text
  | [] => (value, [])
  | c :: r =>
    match digits, hex? c with
    | digits + 1, some d => readPiece digits (16 * value + d) r
    | _, _ => (value, c :: r)

/-- A byte in decimal without needless zeros, and the rest. -/
def readByte (value : Option Nat) : Text → Option (Nat × Text)
  | [] => value.map fun v => (v, [])
  | c :: r =>
    if '0' ≤ c ∧ c ≤ '9' then
      match value with
      | none => readByte (some (c.toNat - 48)) r
      | some 0 => none
      | some v =>
        let v := 10 * v + (c.toNat - 48)
        if 255 < v then none else readByte (some v) r
    else value.map fun v => (v, c :: r)

/-- So many bytes between dots, which use up the text. -/
def readBytes : Nat → Text → Option (List Nat)
  | 0, _ => none
  | n + 1, t => do
    let (b, rest) ← readByte none t
    match n, rest with
    | 0, [] => return [b]
    | _ + 1, '.' :: r => do
      let bytes ← readBytes n r
      return b :: bytes
    | _, _ => none

/-- The pieces in front of a text, latest first, and the place of the run that is left out. -/
structure ReadState where
  /-- The pieces so far, latest first. -/
  pieces : List Nat
  /-- How many pieces stand before the run that is left out. -/
  gap : Option Nat

/-- A state behind one more piece. -/
def ReadState.add (st : ReadState) (piece : Nat) : ReadState := ⟨piece :: st.pieces, st.gap⟩

/-- How many pieces a state has; the run that is left out counts as one. -/
def ReadState.count (st : ReadState) : Nat := st.pieces.length + if st.gap.isSome then 1 else 0

/-- The pieces of an address in which a run may be left out. -/
def ReadState.fill (st : ReadState) : Option (List Nat) :=
  let pieces := st.pieces.reverse
  match st.gap with
  | none => if pieces.length = 8 then some pieces else none
  | some n => some (pieces.take n ++ List.replicate (8 - pieces.length) 0 ++ pieces.drop n)

/-- The pieces of an address that ends as one of version 4, which fills two pieces. -/
def readTail (st : ReadState) (t : Text) : Option (List Nat) :=
  match readBytes 4 t with
  | some [a, b, c, d] =>
    if 6 < st.count then none else ((st.add (256 * a + b)).add (256 * c + d)).fill
  | _ => none

/-- Reads the pieces of an address, at most as many as the fuel allows. -/
def readFrom : Nat → ReadState → Text → Option (List Nat)
  | _, st, [] => st.fill
  | 0, _, _ => none
  | fuel + 1, st, c :: r =>
    if 8 ≤ st.count then none
    else if c = ':' then
      if st.gap.isSome then none else readFrom fuel ⟨st.pieces, some st.pieces.length⟩ r
    else
      match readPiece 4 0 (c :: r) with
      | (value, []) => (st.add value).fill
      | (_, '.' :: _) => if c = '.' then none else readTail st (c :: r)
      | (value, ':' :: rest) => if rest.isEmpty then none else readFrom fuel (st.add value) rest
      | _ => none

/-- How many steps an address may take: each adds a piece or the run that is left out. -/
def maxSteps : Nat := 9

/-- The pieces of the address between two brackets. -/
def parse? : Text → Option (List Nat)
  | ':' :: ':' :: r => readFrom maxSteps ⟨[], some 0⟩ r
  | ':' :: _ => none
  | [] | [_] => none
  | t => readFrom maxSteps ⟨[], none⟩ t

end Ipv6

end UrlFilter.Url
