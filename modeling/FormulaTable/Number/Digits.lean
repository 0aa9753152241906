/-!
# `FormulaTable.Number.Digits`: the value of decimal digits

`decimalValue` gives the number that a row of digits stands for. Taken one by one, every digit
multiplies the whole number before it, which is slow for a very long row. Such a row is cut into
halves until they are short, and the values of the halves are put together.

`decimalValue_eq` says that the cuts do not matter: the value is that of the digits taken one by
one.
-/

set_option autoImplicit false

namespace FormulaTable

/-- The value of a row of digits that is halved `cuts` times, and then taken digit by digit. -/
def valueByHalves : Nat → List Char → Nat
  | 0, digits => Nat.ofDigitChars 10 digits 0
  | cuts + 1, digits =>
    let back := digits.drop (digits.length / 2)
    valueByHalves cuts (digits.take (digits.length / 2)) * Nat.pow 10 back.length +
      valueByHalves cuts back

/-- The number that a row of decimal digits stands for. -/
def decimalValue (digits : List Char) : Nat :=
  valueByHalves (digits.length / 64).log2 digits

/-- By halves, digits have the value that they have one by one, however often they are cut. -/
theorem valueByHalves_eq (cuts : Nat) (digits : List Char) :
    valueByHalves cuts digits = Nat.ofDigitChars 10 digits 0 := by
  induction cuts generalizing digits with
  | zero => rfl
  | succ cuts ih =>
    -- The front half counts as many places further up as the back half is long.
    have hback := @Nat.ofDigitChars_eq_ofDigitChars_zero (digits.drop (digits.length / 2))
      (Nat.ofDigitChars 10 (digits.take (digits.length / 2)) 0)
    rw [← Nat.ofDigitChars_append, List.take_append_drop] at hback
    rw [valueByHalves, ih, ih, hback, Nat.mul_comm]
    rfl

/-- The value is that of the digits taken one by one. -/
theorem decimalValue_eq (digits : List Char) :
    decimalValue digits = Nat.ofDigitChars 10 digits 0 :=
  valueByHalves_eq _ digits

end FormulaTable
