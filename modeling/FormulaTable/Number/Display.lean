import FormulaTable.Number.Binary
import FormulaTable.Number.Rounding

/-!
# `FormulaTable.Number.Display`: numbers as a table shows them

A whole number is shown with all its digits. Any other number is rounded to four places, a half to
the even neighbour, and loses the zeros at the end, so it may come out whole. Zero has no sign.
-/

set_option autoImplicit false

namespace FormulaTable

/-- The four digits of a number below ten thousand. -/
def fourDigits (n : Nat) : List Char :=
  [n / 1000 % 10, n / 100 % 10, n / 10 % 10, n % 10].map Nat.digitChar

/-- The digits behind the point of `n` ten-thousandths, with the point and without zeros at the
end; nothing at all for a whole number. -/
def fractionChars (n : Nat) : List Char :=
  if n % 10000 = 0 then []
  else '.' :: ((fourDigits (n % 10000)).reverse.dropWhile (· == '0')).reverse

/-- `± n / 10000` in decimal notation. -/
def tenThousandths (negative : Bool) (n : Nat) : List Char :=
  (if negative && n != 0 then ['-'] else []) ++ Nat.toDigits 10 (n / 10000) ++ fractionChars n

/-- How a finite number is shown. -/
def Binary.display (b : Binary) : List Char :=
  tenThousandths b.negative (roundHalfEven (b.numerator * 10000) b.denominator)

/-- How a number is shown. -/
def displayNumber (x : Float) : String :=
  if x.isNaN then "NaN"
  else if x.isFinite then String.ofList (Binary.ofFloat x).display
  else if x < 0 then "-inf"
  else "inf"

end FormulaTable
