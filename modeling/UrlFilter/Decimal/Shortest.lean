import UrlFilter.Text.Basic

/-!
# The shortest decimal of a number

A number of double precision is `m · 2 ^ q`.  It is read back from any decimal that lies nearer to
it than to its neighbours.  Among those, `Shortest.select` takes one with the fewest digits, and
among the decimals of that length the nearest.  For each number of digits there are two candidates,
the neighbours of the number on the grid of decimals with so many digits.  All comparisons are
between natural numbers.

`Shortest.write` lays the digits out.  Numbers of moderate size are written with a point, the others
with an exponent.
-/

namespace UrlFilter.Shortest

/-! ## The number -/

/-- A positive number of double precision. -/
structure Binary where
  /-- The significand. -/
  significand : Nat
  /-- The power of two. -/
  exponent : Int

/-- The least power of two. -/
def minExponent : Int := -1074

/-- The number of 63 bits, which hold the exponent in front of the fraction. -/
def Binary.ofBits (bits : Nat) : Binary :=
  let fraction : Nat := bits % Nat.pow 2 52
  let biased : Nat := bits / Nat.pow 2 52 % Nat.pow 2 11
  if biased = 0 then ⟨fraction, minExponent⟩
  else ⟨Nat.pow 2 52 + fraction, minExponent + (biased - 1 : Nat)⟩

/-- The part of a quarter step by which the decimals below may miss a number: the neighbour below a
power of two is nearer. -/
def Binary.stepBelow (b : Binary) : Nat :=
  if b.significand = Nat.pow 2 52 ∧ b.exponent ≠ minExponent then 1 else 2

/-! ## The grid -/

/-- A grid of decimals: a quarter step of the number is `numerator / denominator` steps of it. -/
structure Grid where
  /-- The power of ten between its steps. -/
  exponent : Int
  /-- The numerator of a quarter step. -/
  numerator : Nat
  /-- The denominator of a quarter step. -/
  denominator : Nat

/-- The grid of a power of ten. -/
def Binary.grid (b : Binary) (exponent : Int) : Grid where
  exponent := exponent
  numerator := Nat.pow 2 (b.exponent - 2).toNat * Nat.pow 10 (-exponent).toNat
  denominator := Nat.pow 2 (2 - b.exponent).toNat * Nat.pow 10 exponent.toNat

/-- The point of a grid at a number or below it. -/
def Grid.floor (g : Grid) (b : Binary) : Nat := 4 * b.significand * g.numerator / g.denominator

/-- Whether a point of a grid is read back as a number. -/
def Grid.readsBack (g : Grid) (b : Binary) (point : Nat) : Bool :=
  let low := (4 * b.significand - b.stepBelow) * g.numerator
  let high := (4 * b.significand + 2) * g.numerator
  let place := point * g.denominator
  if b.significand % 2 = 0 then low ≤ place && place ≤ high else low < place && place < high

/-- Whether the point above is to be taken rather than the one below: it is nearer, or as near and
even. -/
def Grid.prefersAbove (g : Grid) (b : Binary) (below : Nat) : Bool :=
  let value := 4 * b.significand * g.numerator
  let down := value - below * g.denominator
  let up := (below + 1) * g.denominator - value
  up < down || (up == down && below % 2 == 1)

/-- The neighbour of a number on a grid that is read back, if one is. -/
def Grid.select (g : Grid) (b : Binary) : Option Nat :=
  let below := g.floor b
  match g.readsBack b below, g.readsBack b (below + 1) with
  | true, true => some (if g.prefersAbove b below then below + 1 else below)
  | true, false => some below
  | false, true => some (below + 1)
  | false, false => none

/-! ## The digits -/

/-- The power of ten of the first digit of a number. -/
def Binary.leading (b : Binary) : Int :=
  let exponents := (List.range 633).map fun (n : Nat) => (308 : Int) - n
  (exponents.find? fun e => 0 < (b.grid e).floor b).getD 0

/-- How many digits are enough for every number. -/
def maxDigits : Nat := 17

/-- The digits that are read back as a number, and the power of ten behind them. -/
def select (b : Binary) : Nat × Int :=
  let leading := b.leading
  let found := (List.range maxDigits).findSome? fun (n : Nat) =>
    let g := b.grid (leading - n)
    (g.select b).map fun point => (point, g.exponent)
  found.getD (0, 0)

/-- Moves zeros from the end of the digits to the exponent, as many as the fuel allows. -/
def stripZeros : Nat → Nat → Int → Nat × Int
  | 0, digits, exponent => (digits, exponent)
  | fuel + 1, digits, exponent =>
    if digits % 10 = 0 then stripZeros fuel (digits / 10) (exponent + 1) else (digits, exponent)

/-! ## The layout -/

/-- The least power of ten of a first digit that is written with a point only. -/
def minPlain : Int := -5

/-- The greatest power of ten of a first digit that is written with a point only. -/
def maxPlain : Int := 15

/-- A power of ten behind its mark. -/
def writeExponent (exponent : Int) : Text :=
  ['e', if exponent < 0 then '-' else '+'] ++ Nat.toDigits 10 exponent.natAbs

/-- Digits in front of a power of ten. -/
def layOut (digits : Text) (exponent : Int) : Text :=
  let leading := exponent + digits.length - 1
  if leading < minPlain ∨ maxPlain < leading then
    match digits with
    | [] => []
    | d :: [] => d :: writeExponent leading
    | d :: r => d :: '.' :: r ++ writeExponent leading
  else if 0 ≤ exponent then digits ++ List.replicate exponent.toNat '0' ++ ['.', '0']
  else if 0 ≤ leading then
    digits.take (leading.toNat + 1) ++ '.' :: digits.drop (leading.toNat + 1)
  else '0' :: '.' :: List.replicate (leading.natAbs - 1) '0' ++ digits

/-- A number that is zero or more, by its bits. -/
def writeBits (bits : Nat) : Text :=
  if bits = 0 then ['0', '.', '0']
  else
    let (digits, exponent) := select (Binary.ofBits bits)
    let (digits, exponent) := stripZeros maxDigits digits exponent
    layOut (Nat.toDigits 10 digits) exponent

/-- A finite number of double precision in the shortest way. -/
def write (f : Float) : Text :=
  let bits := f.toBits.toNat
  if Nat.pow 2 63 ≤ bits then '-' :: writeBits (bits - Nat.pow 2 63) else writeBits bits

end UrlFilter.Shortest
