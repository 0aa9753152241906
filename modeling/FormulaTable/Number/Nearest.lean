import FormulaTable.Number.Binary
import FormulaTable.Number.Rounding

/-!
# `FormulaTable.Number.Nearest`: the double nearest to a fraction

`nearest?` rounds a fraction to the nearest double, and of two that are equally near to the one
with the even significand. It works in whole numbers: the power of two of the result is known from
the size of the fraction, and the significand is the fraction counted in that power, rounded.

The bit patterns of the doubles from zero upwards are consecutive numbers, so a significand that is
rounded up to the next power of two needs no special care, nor do the smallest doubles.
-/

set_option autoImplicit false

namespace FormulaTable

/-- The greatest power of two that is not above a positive fraction, by its exponent. -/
def floorLog2 (numerator denominator : Nat) : Int :=
  let guess : Int := (numerator.log2 : Int) - denominator.log2
  if numerator <<< (-guess).toNat < denominator <<< guess.toNat then guess - 1 else guess

/-- The bits of the double nearest to a fraction that is not negative. Beyond the largest double
they are those of infinity or more. -/
def nearestBits (numerator denominator : Nat) : Nat :=
  if numerator = 0 then 0
  else
    let unit := max (-1074) (floorLog2 numerator denominator - 52)
    (unit + 1074).toNat * leadingOne +
      roundHalfEven (numerator <<< (-unit).toNat) (denominator <<< unit.toNat)

/-- The bits of infinity: those of every positive finite double are below. -/
def infinityBits : Nat :=
  2047 * leadingOne

/-- The finite double with the given sign nearest to a fraction, if there is one. -/
def nearest? (negative : Bool) (numerator denominator : Nat) : Option Float :=
  let bits := nearestBits numerator denominator
  if bits < infinityBits then
    some (Float.ofBits (UInt64.ofNat (if negative then signBit + bits else bits)))
  else none

end FormulaTable
