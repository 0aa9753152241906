import FormulaTable.Builtin.Query

/-!
# `FormulaTable.Meaning.Arithmetic`: sums, rounding and random numbers

The functions that calculate with numbers. A list of numbers is always gone through from left to
right, since the sum of doubles depends on the order.
-/

set_option autoImplicit false

namespace FormulaTable.Meaning

/-- The sum of numbers, from left to right. -/
def total (xs : List Float) : Float :=
  xs.foldl (· + ·) (-0.0)

/-- The mean of numbers; zero if there are none. -/
def mean (xs : List Float) : Float :=
  if xs.isEmpty then 0 else total xs / Float.ofNat xs.length

/-- The largest of numbers; zero if there are none. -/
def largest : List Float → Float
  | [] => 0
  | x :: xs => xs.foldl (fun most y => if most < y then y else most) x

/-- The smallest of numbers; zero if there are none. -/
def smallest : List Float → Float
  | [] => 0
  | x :: xs => xs.foldl (fun least y => if y < least then y else least) x

/-- The product of numbers, from left to right; zero if there are none. -/
def productOf (xs : List Float) : Float :=
  if xs.isEmpty then 0 else xs.foldl (· * ·) 1

/-- A function of all numbers. -/
def overNumbers (f : List Float → Float) : Query Value := do
  return .number (f (← Query.allNumbers))

/-- A function of one number. -/
def overNumber (f : Float → Float) : Query Value := do
  return .number (f (← Query.number 0))

/-! ## Rounding -/

/-- Multiplies `power` by `base ^ n`, squaring the base as long as `n` can be halved. -/
def timesPower (power base : Float) (n : Nat) : Float :=
  let power := if n % 2 = 1 then power * base else power
  if n / 2 = 0 then power else timesPower power (base * base) (n / 2)
termination_by n
decreasing_by omega

/-- The double that repeated squaring gives for a power of ten. -/
def powerOfTen (n : Nat) : Float :=
  timesPower 1 10 n

/-- Rounds to a whole number, halves away from zero. -/
def halfAway (x : Float) : Float :=
  if x ≥ 0 then (x + 0.5).floor else (x - 0.5).ceil

/-- Rounds to a number of digits after the point, or before it if `digits` is negative. -/
def roundTo (x : Float) (digits : Int) : Float :=
  let scale := powerOfTen digits.natAbs
  if digits < 0 then halfAway (x / scale) * scale else halfAway (x * scale) / scale

/-- The number of digits that a number calls for: its whole part, at most 308 either way. -/
def digitsOf (x : Float) : Int :=
  let b := Binary.ofFloat x
  let size := min (b.numerator / b.denominator) 308
  if b.negative then -size else size

/-- Rounds the first number to the digits that the second calls for. -/
def rounded : Query Value := do
  let x ← Query.number 0
  let digits ← Query.number 1
  return .number (roundTo x (digitsOf digits))

/-- Rounds the first number to a multiple of the second, which is one if it is left out. -/
def roundToMultiple (f : Builtin) (toWhole : Float → Float) : Query Value := do
  let x ← Query.number 0
  let significance := (← Query.number? 1).getD 1
  if significance == 0 then .refuse (.zeroSignificance f)
  else return .number (toWhole (x / significance) * significance)

/-! ## Roots, powers and remainders -/

/-- The square root of a number that is not negative. -/
def squareRoot : Query Value := do
  let x ← Query.number 0
  if x < 0 then .refuse .negativeRoot else return .number x.sqrt

/-- The first number to the power of the second. -/
def toPower : Query Value := do
  let base ← Query.number 0
  let exponent ← Query.number 1
  return .number (base ^ exponent)

/-- The remainder of a division, with the sign of the divisor. -/
def remainder : Query Value := do
  let x ← Query.number 0
  let divisor ← Query.number 1
  if divisor == 0 then .refuse .zeroModulus
  else return .number (x - divisor * (x / divisor).floor)

/-- The double nearest to the circle number. -/
def circleNumber : Float :=
  3.141592653589793

/-! ## Random numbers -/

/-- The count of steps into which draws cut the unit interval. -/
def drawSteps : Nat := 0x20000000000000

/-- The number of the unit interval that a draw gives. -/
def unitOfDraw (draw : Nat) : Float :=
  Float.ofNat (draw % drawSteps) / Float.ofNat drawSteps

/-- A whole number brought into the range of 64 bits with a sign. -/
def clampToWord (n : Int) : Int :=
  max (-0x8000000000000000) (min 0x7fffffffffffffff n)

/-- The whole number between two bounds that a draw gives. -/
def drawBetween (draw : Nat) : Query Value := do
  let bottom := clampToWord (Binary.ofFloat (← Query.number 0)).ceil
  let top := clampToWord (Binary.ofFloat (← Query.number 1)).floor
  if top < bottom then .refuse (.emptyInterval bottom top)
  else return .number (Float.ofInt (bottom + draw % (top - bottom + 1)))

end FormulaTable.Meaning
