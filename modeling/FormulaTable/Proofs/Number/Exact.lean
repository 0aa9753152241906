import FormulaTable.Proofs.Number.Total

/-!
# `FormulaTable.Proofs.Number.Exact`: exact values, and what it is to round them

A finite double is a rational number (`exactValue`). `Binary.ofFloat` takes the same number from the
bits, as a sign and a quotient of whole numbers: `exactValue_eq`.

What it is to round is said here of rational numbers, without a quotient or a remainder.
`IsNearestEven` asks for a whole number that is nearest, and of two for the even one; there is
exactly one such number (`isNearestEven_iff`). `roundHalfEven` finds it for a quotient
(`roundEven_div`), and with a minus in front everything stays the same (`roundEven_neg`).
-/

set_option autoImplicit false

namespace FormulaTable

open Float.Model (Format UnpackedFloat)
open Float.Model.UnpackedFloat (Sign unpackExponent unpackMantissa unpackSign)

/-! ## The value of a double -/

/-- The rational number that a finite double is; zero for what is no finite double. -/
def exactValue (x : Float) : ℚ :=
  match x.toModel.unpack with
  | .finite sign significand exponent _ => (sign.apply significand : ℤ) * 2 ^ exponent
  | _ => 0

/-- The number with a sign, a significand and a power of two. -/
def Binary.value (b : Binary) : ℚ :=
  (if b.negative then -1 else 1) * ((b.numerator : ℚ) / b.denominator)

/-- A power of two is a quotient of two whole ones, one of which is one. -/
theorem Binary.value_eq (b : Binary) :
    b.value = (if b.negative then -1 else 1) * (b.significand * 2 ^ b.exponent) := by
  have hpower : (2 : ℚ) ^ b.exponent = 2 ^ b.exponent.toNat / 2 ^ (-b.exponent).toNat := by
    have hsplit : b.exponent = (b.exponent.toNat : ℤ) - ((-b.exponent).toNat : ℤ) := by omega
    conv_lhs => rw [hsplit]
    rw [zpow_sub₀ two_ne_zero, zpow_natCast, zpow_natCast]
  rw [value, numerator, denominator, Nat.shiftLeft_eq, Nat.one_shiftLeft, hpower]
  push_cast
  ring

section
variable (x : Float)

/-- The exponent of a double is in the eleven bits above the fraction. -/
theorem toNat_unpackExponent :
    (@unpackExponent Format.binary64 x.toModel.toBits.toBitVec).toNat
      = x.toBits.toNat / leadingOne % 2048 := by
  simp [unpackExponent, Nat.shiftRight_eq_div_pow, leadingOne]
  rfl

/-- The fraction of a double is in its lowest 52 bits. -/
theorem toNat_unpackMantissa :
    (@unpackMantissa Format.binary64 x.toModel.toBits.toBitVec).toNat
      = x.toBits.toNat % leadingOne := by
  simp [unpackMantissa, leadingOne]
  rfl

/-- The highest bit is the sign. -/
theorem ofBitVec_unpackSign :
    Sign.ofBitVec (@unpackSign Format.binary64 x.toModel.toBits.toBitVec)
      = if (Binary.ofFloat x).negative then .negative else .positive := by
  have hlt : x.toBits.toNat < 2 ^ 64 := x.toBits.toNat_lt
  -- The sign is the highest of the 64 bits, read once as a shift and once as a comparison.
  have hbit : (@unpackSign Format.binary64 x.toModel.toBits.toBitVec).toNat
      = x.toBits.toNat / signBit := by
    have hshift : x.toBits.toNat >>> 63 % 2 = x.toBits.toNat / signBit := by
      rw [Nat.shiftRight_eq_div_pow, signBit]
      omega
    exact hshift
  have hnegative : (Binary.ofFloat x).negative = decide (signBit ≤ x.toBits.toNat) := rfl
  rw [Sign.ofBitVec, hnegative]
  by_cases hsign : signBit ≤ x.toBits.toNat
  · have hone : @unpackSign Format.binary64 x.toModel.toBits.toBitVec ≠ 0#1 := by
      intro hzero
      rw [hzero] at hbit
      have hbit' : 0 = x.toBits.toNat / signBit := hbit
      rw [signBit] at hsign hbit'
      omega
    rw [if_neg hone, decide_eq_true hsign, if_pos rfl]
  · have hzero : @unpackSign Format.binary64 x.toModel.toBits.toBitVec = 0#1 := by
      apply BitVec.eq_of_toNat_eq
      rw [hbit]
      exact Nat.div_eq_of_lt (Nat.not_le.mp hsign)
    rw [if_pos hzero, decide_eq_false hsign, if_neg Bool.false_ne_true]

end

/-- Unpacked, a finite double has the sign, the significand and the power of two that
`Binary.ofFloat` takes from its bits. Only a zero has no significand. -/
theorem unpack_of_isFinite {x : Float} (h : x.isFinite) :
    let b := Binary.ofFloat x
    let sign : Sign := if b.negative then .negative else .positive
    x.toModel.unpack
      = if hpos : 0 < b.significand then .finite sign b.significand b.exponent hpos
        else .zero sign := by
  intro b sign
  have hfinite : x.toModel.unpack.isFinite = true := h
  have hexponent := toNat_unpackExponent x
  have hfraction := toNat_unpackMantissa x
  have hbias : (Format.binary64.exponentBias : ℤ) + (52 : ℕ) = 1075 := rfl
  rw [Float.Model.unpack, UnpackedFloat.unpack] at hfinite ⊢
  by_cases hones : @unpackExponent Format.binary64 x.toModel.toBits.toBitVec = -1#_
  · -- Infinity, or no number.
    rw [if_pos hones] at hfinite
    split at hfinite <;> cases hfinite
  rw [if_neg hones]
  by_cases hzeros : @unpackExponent Format.binary64 x.toModel.toBits.toBitVec = 0#_
  · have hfield : x.toBits.toNat / leadingOne % 2048 = 0 := by
      rw [← hexponent, hzeros]
      rfl
    have hsignificand : b.significand = x.toBits.toNat % leadingOne := if_pos hfield
    have hpower : b.exponent = -1074 := if_pos hfield
    rw [if_pos hzeros]
    simp only [ofBitVec_unpackSign, hexponent, hfraction, hfield, hsignificand, hpower, hbias]
    by_cases hnone : @unpackMantissa Format.binary64 x.toModel.toBits.toBitVec = 0#52
    · have hzero : x.toBits.toNat % leadingOne = 0 := by
        rw [← hfraction, hnone]
        rfl
      rw [dif_pos hnone, dif_neg (Nat.not_lt.mpr hzero.le)]
    · have hpos : 0 < x.toBits.toNat % leadingOne := by
        rw [← hfraction]
        exact Nat.pos_of_ne_zero fun hzero => hnone (BitVec.eq_of_toNat_eq hzero)
      rw [dif_neg hnone, dif_pos hpos]
      rfl
  · have hfield : x.toBits.toNat / leadingOne % 2048 ≠ 0 := by
      rw [← hexponent]
      intro hzero
      exact hzeros (BitVec.eq_of_toNat_eq hzero)
    have hsignificand : b.significand = leadingOne + x.toBits.toNat % leadingOne :=
      if_neg hfield
    have hpower : b.exponent = (x.toBits.toNat / leadingOne % 2048 : Nat) - 1075 :=
      if_neg hfield
    have hpos : 0 < b.significand := by
      rw [hsignificand, leadingOne]
      omega
    have hall : (1#1 ++ @unpackMantissa Format.binary64 x.toModel.toBits.toBitVec).toNat
        = b.significand := by
      have hlt : x.toBits.toNat % leadingOne < 2 ^ 52 := Nat.mod_lt _ (Nat.two_pow_pos 52)
      rw [BitVec.toNat_append, hfraction, hsignificand]
      show 2 ^ 52 ||| x.toBits.toNat % leadingOne = leadingOne + x.toBits.toNat % leadingOne
      rw [Nat.or_comm, Nat.or_two_pow_eq_add_of_lt hlt, Nat.add_comm]
      rfl
    rw [if_neg hzeros, dif_pos hpos]
    simp only [ofBitVec_unpackSign, hexponent, hall, hbias, hpower]
    rfl

/-- A finite double is the number that its bits stand for. -/
theorem exactValue_eq {x : Float} (h : x.isFinite) : exactValue x = (Binary.ofFloat x).value := by
  rw [Binary.value_eq, exactValue, unpack_of_isFinite h]
  by_cases hpos : 0 < (Binary.ofFloat x).significand
  · rw [dif_pos hpos]
    cases (Binary.ofFloat x).negative <;> simp [Sign.apply]
  · have hzero : (Binary.ofFloat x).significand = 0 := Nat.eq_zero_of_not_pos hpos
    rw [dif_neg hpos, hzero]
    simp

/-! ## Rounding -/

/-- A whole number is nearest to a rational one, and even if another is equally near. -/
def IsNearestEven (q : ℚ) (k : ℤ) : Prop :=
  |q - k| < 1 / 2 ∨ (|q - k| = 1 / 2 ∧ Even k)

/-- The whole number nearest to a rational one, the even one of two equally near. -/
def roundEven (q : ℚ) : ℤ :=
  if q - ⌊q⌋ < 1 / 2 ∨ (q - ⌊q⌋ = 1 / 2 ∧ Even ⌊q⌋) then ⌊q⌋ else ⌊q⌋ + 1

namespace IsNearestEven

variable {q : ℚ} {k : ℤ}

/-- The nearest whole number is at most one half away. -/
theorem abs_sub_le_half (h : IsNearestEven q k) : |q - k| ≤ 1 / 2 := by
  rcases h with hlt | ⟨heq, -⟩
  · exact hlt.le
  · exact heq.le

/-- With the sign turned, the nearest whole number is that with its sign turned. -/
theorem neg (h : IsNearestEven q k) : IsNearestEven (-q) (-k) := by
  have hsame : |-q - (-k : ℤ)| = |q - k| := by
    rw [← abs_neg]
    push_cast
    ring_nf
  rw [IsNearestEven, hsame, even_neg]
  exact h

/-- A whole number is nearest to itself. -/
theorem intCast (k : ℤ) : IsNearestEven k k := by
  left
  rw [sub_self, abs_zero]
  norm_num

/-- Two whole numbers that are both nearest stand beside each other, and only one of them is
even. -/
theorem unique {k' : ℤ} (h : IsNearestEven q k) (h' : IsNearestEven q k') : k = k' := by
  have hnear : |(k : ℚ) - k'| ≤ |q - k| + |q - k'| := by
    have hsum := abs_sub_le (k : ℚ) q k'
    rwa [abs_sub_comm (k : ℚ) q] at hsum
  by_contra hne
  have hapart : (1 : ℚ) ≤ |(k : ℚ) - k'| := by
    exact_mod_cast Int.one_le_abs (sub_ne_zero.mpr hne)
  have hle := h.abs_sub_le_half
  have hle' := h'.abs_sub_le_half
  -- Neither can be nearer than a half, so both are even.
  have heven : Even k := by
    rcases h with hlt | ⟨-, heven⟩
    · linarith
    · exact heven
  have heven' : Even k' := by
    rcases h' with hlt | ⟨-, heven'⟩
    · linarith
    · exact heven'
  have hone : |k - k'| = 1 := by
    have hle_one : |(k : ℚ) - k'| ≤ 1 := by linarith
    have hcast : |k - k'| ≤ 1 := by exact_mod_cast hle_one
    exact le_antisymm hcast (by exact_mod_cast hapart)
  have hdifference : Even |k - k'| := even_abs.mpr (heven.sub heven')
  rw [hone] at hdifference
  exact absurd hdifference (by decide)

end IsNearestEven

/-- Rounding gives the nearest whole number, and the even one of two. -/
theorem isNearestEven_roundEven (q : ℚ) : IsNearestEven q (roundEven q) := by
  have hlow : 0 ≤ q - ⌊q⌋ := Int.fract_nonneg q
  have hhigh : q - ⌊q⌋ < 1 := Int.fract_lt_one q
  rw [roundEven]
  split
  · next h =>
      rwa [IsNearestEven, abs_of_nonneg hlow]
  · next h =>
      have habs : |q - (⌊q⌋ + 1 : ℤ)| = 1 - (q - ⌊q⌋) := by
        rw [abs_sub_comm, abs_of_nonneg (by push_cast; linarith)]
        push_cast
        ring
      rw [not_or, not_lt, not_and] at h
      rw [IsNearestEven, habs]
      rcases h.1.lt_or_eq with hlt | heq
      · left
        linarith
      · -- Halfway the number below is odd, so the one above is even.
        right
        refine ⟨by linarith, ?_⟩
        exact (Int.not_even_iff_odd.mp (h.2 heq.symm)).add_one

/-- There is one nearest number. -/
theorem isNearestEven_iff {q : ℚ} {k : ℤ} : IsNearestEven q k ↔ k = roundEven q := by
  constructor
  · exact fun h => h.unique (isNearestEven_roundEven q)
  · rintro rfl
    exact isNearestEven_roundEven q

/-- Rounding does the same on both sides of zero. -/
theorem roundEven_neg (q : ℚ) : roundEven (-q) = -roundEven q :=
  (isNearestEven_iff.mp (isNearestEven_roundEven q).neg).symm

/-- A whole number is left as it is. -/
theorem roundEven_intCast (k : ℤ) : roundEven k = k :=
  (isNearestEven_iff.mp (.intCast k)).symm

/-- Of a quotient, the nearest number is found from its remainder. -/
theorem roundEven_div (numerator : ℕ) {denominator : ℕ} (h : 0 < denominator) :
    roundEven ((numerator : ℚ) / denominator) = roundHalfEven numerator denominator := by
  have hpos : (0 : ℚ) < denominator := by exact_mod_cast h
  have hfloor : ⌊(numerator : ℚ) / denominator⌋ = (numerator / denominator : ℕ) :=
    Rat.floor_natCast_div_natCast numerator denominator
  -- Rounding looks at the rest only: below a half, a half, or above it.
  have hrest : (numerator : ℚ) / denominator - (numerator / denominator : ℕ)
      = (numerator % denominator : ℕ) / denominator := by
    have hsplit : (numerator : ℚ) = denominator * (numerator / denominator : ℕ)
        + (numerator % denominator : ℕ) := by
      exact_mod_cast (Nat.div_add_mod numerator denominator).symm
    field_simp
    linarith
  have hbelow : (numerator % denominator : ℕ) / (denominator : ℚ) < 1 / 2
      ↔ 2 * (numerator % denominator) < denominator := by
    rw [div_lt_div_iff₀ hpos two_pos, one_mul, mul_comm]
    norm_cast
  have hhalf : (numerator % denominator : ℕ) / (denominator : ℚ) = 1 / 2
      ↔ 2 * (numerator % denominator) = denominator := by
    rw [div_eq_div_iff hpos.ne' two_ne_zero, one_mul, mul_comm]
    norm_cast
  have heven : Even ((numerator / denominator : ℕ) : ℤ) ↔ numerator / denominator % 2 = 0 := by
    rw [Int.even_coe_nat, Nat.even_iff]
  -- With these the two definitions branch on the same conditions.
  rw [roundEven, hfloor, Int.cast_natCast, hrest, roundHalfEven]
  simp only [hbelow, hhalf, heven, Bool.or_eq_true, Bool.and_eq_true, decide_eq_true_eq]
  split <;> rfl

end FormulaTable
