/-!
# `FormulaTable.Number.Binary`: the exact value of a floating-point number

A finite double is a whole number times a power of two. `Binary.ofFloat` takes the bits apart;
everything that depends on the exact value of a double, its display, its floor and whether it is
whole, is computed from there in whole numbers.
-/

set_option autoImplicit false

namespace FormulaTable

/-- The sign bit of a double. -/
def signBit : Nat := 0x8000000000000000

/-- The place of the one before the fraction of a double, and so the count of its fractions. -/
def leadingOne : Nat := 0x10000000000000

/-- A sign, a significand and a power of two: `± significand · 2 ^ exponent`. -/
structure Binary where
  /-- Whether the sign is minus; zero has a sign too. -/
  negative : Bool
  significand : Nat
  exponent : Int
  deriving DecidableEq, Repr

namespace Binary

/-- The value of a finite double. A double has one sign bit, eleven bits of exponent and fifty-two
of fraction; unless the exponent field is zero, a one stands before the fraction. -/
def ofFloat (x : Float) : Binary :=
  let bits : Nat := x.toBits.toNat
  let field : Nat := bits / leadingOne % 2048
  let fraction : Nat := bits % leadingOne
  { negative := signBit ≤ bits
    significand := if field = 0 then fraction else leadingOne + fraction
    exponent := if field = 0 then -1074 else (field : Int) - 1075 }

/-- The absolute value is the quotient of `numerator` and `denominator`. -/
def numerator (b : Binary) : Nat :=
  b.significand <<< b.exponent.toNat

/-- The absolute value is the quotient of `numerator` and `denominator`. -/
def denominator (b : Binary) : Nat :=
  1 <<< (-b.exponent).toNat

/-- The number divides by something. -/
theorem denominator_pos (b : Binary) : 0 < b.denominator := by
  rw [denominator, Nat.one_shiftLeft]
  exact Nat.two_pow_pos _

/-- The largest whole number that is not above the value. -/
def floor (b : Binary) : Int :=
  if b.negative then -((b.numerator + b.denominator - 1) / b.denominator : Nat)
  else (b.numerator / b.denominator : Nat)

/-- The smallest whole number that is not below the value. -/
def ceil (b : Binary) : Int :=
  if b.negative then -(b.numerator / b.denominator : Nat)
  else ((b.numerator + b.denominator - 1) / b.denominator : Nat)

end Binary

/-- The whole number of things that a number calls for: its floor, and none if it is negative. -/
def countOf (x : Float) : Nat :=
  (Binary.ofFloat x).floor.toNat

/-- A key that puts all doubles in order, minus zero before zero. -/
def orderKey (x : Float) : Int :=
  let bits : Nat := x.toBits.toNat
  if signBit ≤ bits then -((bits - signBit : Nat) : Int) - 1 else bits

end FormulaTable
