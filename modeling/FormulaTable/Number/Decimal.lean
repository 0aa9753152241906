import FormulaTable.Number.Digits
import FormulaTable.Number.Nearest
import FormulaTable.Text.Blank

/-!
# `FormulaTable.Number.Decimal`: numbers in decimal notation

A number is written as a sign, digits with a point among or beside them, and a power of ten behind
an `e`; only one digit is indispensable. `Decimal.ofChars?` reads the notation, and cuts an enormous
power of ten short. `parseNumber` reads a text as a double: the one nearest to the decimal value,
and nothing if that is beyond the largest double.
-/

set_option autoImplicit false

namespace FormulaTable

/-- A decimal number: `± coefficient · 10 ^ exponent`. -/
structure Decimal where
  /-- Whether a minus sign stands in front. -/
  negative : Bool
  /-- The digits before and after the point, as one whole number. -/
  coefficient : Nat
  /-- The power of ten, already lowered by the number of digits after the point. -/
  exponent : Int
  deriving DecidableEq, Repr

namespace Decimal

/-- Takes a sign off the front; the flag says whether it is a minus. -/
def takeSign : List Char → Bool × List Char
  | '-' :: rest => (true, rest)
  | '+' :: rest => (false, rest)
  | text => (false, text)

/-- A power of ten that has reached this size takes no further digit. -/
def longPower : Nat := 0x10000

/-- The power of ten that digits spell. Once it has reached `longPower`, the digits after it are
passed over. That can change the value of a number only if the number has tens of thousands of
digits itself: with fewer it is zero or too large either way. -/
def powerOfDigits (digits : List Char) : Nat :=
  digits.foldl (fun power c => if power < longPower then Nat.ofDigitChars 10 [c] power else power) 0

/-- The power of ten that a text spells: nothing at all, or an `e` and a number. -/
def exponentOf? : List Char → Option Int
  | [] => some 0
  | mark :: rest =>
    let (negative, digits) := takeSign rest
    if (mark = 'e' || mark = 'E') && !digits.isEmpty && digits.all Char.isDigit then
      let size : Int := powerOfDigits digits
      some (if negative then -size else size)
    else none

/-- Takes a point off the front. -/
def skipPoint : List Char → List Char
  | '.' :: rest => rest
  | text => text

/-- Reads a number in decimal notation; nothing may precede or follow it. -/
def ofChars? (text : List Char) : Option Decimal := do
  let (negative, unsigned) := takeSign text
  let whole := unsigned.takeWhile Char.isDigit
  let afterWhole := unsigned.dropWhile Char.isDigit
  let fraction :=
    if afterWhole.head? = some '.' then (skipPoint afterWhole).takeWhile Char.isDigit else []
  let rest :=
    if afterWhole.head? = some '.' then (skipPoint afterWhole).dropWhile Char.isDigit
    else afterWhole
  if whole.isEmpty && fraction.isEmpty then none
  else
    let power ← exponentOf? rest
    return {
      negative
      coefficient := decimalValue (whole ++ fraction)
      exponent := power - fraction.length }

/-- A power of ten beyond which every decimal number other than zero is too large for a double, and
below whose opposite it is nearest to zero, however it is written. -/
def powerLimit : Int := 400

/-- The finite double nearest to a decimal number, if there is one. -/
def nearest? (d : Decimal) : Option Float :=
  if d.coefficient = 0 then FormulaTable.nearest? d.negative 0 1
  else if powerLimit < d.exponent then none
  else if d.exponent + d.coefficient.log2 + 1 < -powerLimit then
    FormulaTable.nearest? d.negative 0 1
  else
    FormulaTable.nearest? d.negative (d.coefficient * Nat.pow 10 d.exponent.toNat)
      (Nat.pow 10 (-d.exponent).toNat)

end Decimal

/-- Reads a text as a finite number, with blanks around it. -/
def parseNumber (text : List Char) : Option Float := do
  (← Decimal.ofChars? (Text.trim text)).nearest?

end FormulaTable
