/-!
# `FormulaTable.Number.Rounding`: rounding a quotient

`roundHalfEven` gives the whole number nearest to a quotient; of two that are equally near it takes
the even one.
-/

set_option autoImplicit false

namespace FormulaTable

/-- The whole number nearest to `numerator / denominator`, the even one of two equally near. -/
def roundHalfEven (numerator denominator : Nat) : Nat :=
  let quotient := numerator / denominator
  let twice := 2 * (numerator % denominator)
  if twice < denominator || (twice = denominator && quotient % 2 = 0) then quotient
  else quotient + 1

end FormulaTable
