/-!
# Decimals

A decimal is a number as it is written with digits, a point and an exponent.  `Decimal.toFloat?` is
the number of double precision that stands for it.  It is found by rounding the digits to a number
of double precision and scaling that by a power of ten, so it may be the neighbour of the nearest
one.

The digits are bounded by 64 bits.  Whoever reads more digits keeps as many as fit, and counts the
others into the exponent.
-/

namespace UrlFilter

/-- A number as it is written: a sign, digits, and a power of ten. -/
structure Decimal where
  /-- Whether there is a minus sign. -/
  isNegative : Bool
  /-- The digits as a natural number. -/
  digits : Nat
  /-- The power of ten behind the digits. -/
  exponent : Int
  deriving DecidableEq, Repr

namespace Decimal

/-- The greatest number of digits that are kept, as a natural number. -/
def maxDigits : Nat := Nat.pow 2 64 - 1

/-- The greatest power of ten in double precision. -/
def maxPower : Nat := 308

/-- A power of ten in double precision. -/
def powerOfTen (n : Nat) : Float := Float.ofScientific 1 false n

/-- Divides by the greatest power of ten, at most as often as the fuel says, until the exponent is
one of a power of ten. -/
def scaleUp : Nat → Float → Int → Float × Int
  | 0, f, exponent => (f, exponent)
  | fuel + 1, f, exponent =>
    if -(maxPower : Int) ≤ exponent then (f, exponent)
    else scaleUp fuel (f / powerOfTen maxPower) (exponent + maxPower)

/-- How often the digits can be divided by the greatest power of ten before nothing is left. -/
def maxScalings : Nat := 3

/-- The size of a decimal in double precision; `none` if it is too large. -/
def magnitude? (d : Decimal) : Option Float :=
  let f := (UInt64.ofNat d.digits).toFloat
  if d.digits = 0 then some f
  else if 0 ≤ d.exponent then
    let scaled := f * powerOfTen d.exponent.toNat
    if maxPower < d.exponent.toNat ∨ scaled.isInf then none else some scaled
  else
    let (f, exponent) := scaleUp maxScalings f d.exponent
    some (f / powerOfTen (min exponent.natAbs maxPower))

/-- The number of double precision that stands for a decimal; `none` if it is too large. -/
def toFloat? (d : Decimal) : Option Float :=
  d.magnitude?.map fun f => if d.isNegative then -f else f

end Decimal

end UrlFilter
