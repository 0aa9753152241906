import FormulaTable.Address.Column
import FormulaTable.Proofs.Number.Exact

/-!
# `FormulaTable.Proofs.Number.Floor`: rounding down, and numbers as indices

A number that says how many is rounded down. `countOf` works on the bits, and `countOf_eq_floor`
says that it gives the floor of the exact value, however large that is.

`Float.toUInt64` turns a number into an index of 64 bits: the fraction is cut off, a negative number
becomes none, and what is beyond the last index becomes the last index. So it gives the same as
`countOf` as far as indices go (`toNat_toUInt64`).
-/

set_option autoImplicit false

namespace FormulaTable

open Float.Model (UnpackedFloat)
open Float.Model.UnpackedFloat

/-! ## Rounding down -/

/-- A negative quotient is rounded down by rounding its size up. -/
theorem floor_neg_div (numerator : ℕ) {denominator : ℕ} (h : 0 < denominator) :
    ⌊-((numerator : ℚ) / denominator)⌋ = -((numerator + denominator - 1) / denominator : ℕ) := by
  have hpos : (0 : ℚ) < denominator := by exact_mod_cast h
  have hsplit := Nat.div_add_mod (numerator + denominator - 1) denominator
  have hrest := Nat.mod_lt (numerator + denominator - 1) h
  -- Only the division with rest matters from here on.
  generalize (numerator + denominator - 1) / denominator = quotient at hsplit ⊢
  have habove : numerator ≤ denominator * quotient := by omega
  have hbelow : denominator * quotient < numerator + denominator := by omega
  have habove' : (numerator : ℚ) ≤ denominator * quotient := by exact_mod_cast habove
  have hbelow' : (denominator : ℚ) * quotient < numerator + denominator := by exact_mod_cast hbelow
  rw [Int.floor_eq_iff]
  push_cast
  constructor
  · rw [neg_le_neg_iff, div_le_iff₀ hpos]
    linarith
  · have hless : (quotient : ℚ) - 1 < numerator / denominator := by
      rw [lt_div_iff₀ hpos]
      linarith
    linarith

/-- The floor that is computed from the bits is the floor of the value. -/
theorem Binary.floor_eq (b : Binary) : b.floor = ⌊b.value⌋ := by
  rw [floor, value]
  cases b.negative with
  | true =>
      rw [if_pos rfl, if_pos rfl, neg_one_mul, floor_neg_div _ b.denominator_pos]
  | false =>
      rw [if_neg Bool.false_ne_true, if_neg Bool.false_ne_true, one_mul,
        Rat.floor_natCast_div_natCast]
      rfl

/-- A number calls for the floor of its exact value, or for nothing if it is negative. -/
theorem countOf_eq_floor {x : Float} (h : x.isFinite) : countOf x = ⌊max (exactValue x) 0⌋₊ := by
  rw [countOf, Binary.floor_eq, ← exactValue_eq h, Int.floor_toNat]
  rcases le_total (exactValue x) 0 with hnegative | hpositive
  · rw [max_eq_right hnegative, Nat.floor_of_nonpos hnegative, Nat.floor_zero]
  · rw [max_eq_left hpositive]

/-! ## Numbers as indices -/

/-- A shift to the right divides by a power of two. -/
theorem mantissa_shiftRight (em : ExtendedMantissa) (k : ℕ) :
    (em >>> k).mantissa = em.mantissa / 2 ^ k := by
  show (k.repeat ExtendedMantissa.shiftRightOne em).mantissa = _
  induction k with
  | zero => simp [Nat.repeat]
  | succ k ih =>
      rw [Nat.repeat, ExtendedMantissa.shiftRightOne, ih, Nat.pow_succ, Nat.div_div_eq_div_mul]

/-- Cutting off the fraction leaves the whole part of the quotient. -/
theorem roundToInt_eq (sign : Sign) (b : Binary) :
    roundToInt sign b.significand b.exponent = sign.apply (b.numerator / b.denominator : ℕ) := by
  have hamount : (0 - (b.exponent - (b.exponent - 0).toNat)).toNat = (-b.exponent).toNat := by omega
  simp only [roundToInt, decreaseExponent, shiftToExponent, mantissa_shiftRight, hamount]
  rw [Binary.numerator, Binary.denominator, Nat.one_shiftLeft, Int.sub_zero]
  rfl

/-- A number is held to the largest word. -/
theorem toNat_ofNatClamp (n : ℕ) : (UInt64.ofNatClamp n).toNat = min n (indexLimit - 1) := by
  rw [UInt64.ofNatClamp]
  split
  · next h =>
      rw [UInt64.toNat_ofNatLT]
      exact (Nat.min_eq_left (Nat.le_pred_of_lt h)).symm
  · next h =>
      rw [UInt64.toNat_ofNatLT]
      have hlimit : UInt64.size = indexLimit := rfl
      omega

/-- A number without its fraction is its count, unless it is negative, and then there is nothing to
count. -/
theorem toNat_toInt {x : Float} (h : x.isFinite) (low high : ℤ) :
    (UnpackedFloat.toInt low high x.toModel.unpack).toNat = countOf x := by
  rw [unpack_of_isFinite h, countOf, Binary.floor]
  generalize Binary.ofFloat x = b
  -- A zero is not made of a mantissa and an exponent, so it is a case of its own.
  by_cases hpos : 0 < b.significand
  · rw [dif_pos hpos]
    show (roundToInt _ b.significand b.exponent).toNat = _
    rw [roundToInt_eq]
    cases b.negative with
    | true => exact Int.toNat_neg_natCast _ |>.trans (Int.toNat_neg_natCast _).symm
    | false => rfl
  · have hzero : b.numerator = 0 := by
      rw [Binary.numerator, Nat.eq_zero_of_not_pos hpos, Nat.zero_shiftLeft]
    rw [dif_neg hpos, hzero]
    show 0 = _
    cases b.negative with
    | true => exact (Int.toNat_neg_natCast _).symm
    | false => simp

/-- As an index, a number is its count, or the last index. -/
theorem toNat_toUInt64 {x : Float} (h : x.isFinite) :
    x.toUInt64.toNat = min (countOf x) (indexLimit - 1) := by
  show (UInt64.ofNatClamp (UnpackedFloat.toInt 0 (UInt64.size - 1) x.toModel.unpack).toNat).toNat
    = _
  rw [toNat_ofNatClamp, toNat_toInt h]

end FormulaTable
