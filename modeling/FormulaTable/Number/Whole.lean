import FormulaTable.Number.Binary

/-!
# `FormulaTable.Number.Whole`: whole doubles in messages

A message shows a whole double with the fewest digits that tell it from every other double, and
zeros up to its size; minus zero keeps its sign.
-/

set_option autoImplicit false

namespace FormulaTable

/-- Whether a whole number is nearer to the double `significand · 2 ^ exponent` than to the doubles
beside it, for a significand of fifty-three bits and a positive exponent. The gap below a power of
two is half as wide as the gap above; a number halfway between two doubles belongs to the one with
the even significand. -/
def readsBack (significand exponent candidate : Nat) : Bool :=
  let gap := 1 <<< exponent
  let value := 2 * (significand * gap)
  let low := value - if significand = leadingOne then gap / 2 else gap
  let high := value + gap
  (low < 2 * candidate && 2 * candidate < high) ||
    (significand % 2 = 0 && (low = 2 * candidate || 2 * candidate = high))

/-- The multiple of `unit` that reads back as the double, the nearer one if two do. -/
def multipleReadingBack? (significand exponent unit : Nat) : Option Nat :=
  let value := significand <<< exponent
  let below := value / unit * unit
  let above := below + unit
  match readsBack significand exponent below, readsBack significand exponent above with
  | true, true => some (if value - below ≤ above - value then below else above)
  | true, false => some below
  | false, true => some above
  | false, false => none

/-- The whole number with the most zeros at the end that reads back as the double. -/
def roundestReadingBack (significand exponent : Nat) : Nat :=
  let value := significand <<< exponent
  let powers := (List.range (Nat.toDigits 10 value).length).reverse
  (powers.findSome? fun k => multipleReadingBack? significand exponent (Nat.pow 10 k)).getD value

/-- A whole double as a message shows it. Up to `2 ^ 53` no digit can be spared. -/
def wholeText (x : Float) : String :=
  let b := Binary.ofFloat x
  let size :=
    if b.exponent ≤ 0 then b.numerator / b.denominator
    else roundestReadingBack b.significand b.exponent.toNat
  (if b.negative then "-" else "") ++ toString size

end FormulaTable
