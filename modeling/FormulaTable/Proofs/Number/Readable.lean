import FormulaTable.Proofs.Number.Canonical

/-!
# `FormulaTable.Proofs.Number.Readable`: every number that is shown can be read

What is shown of a finite double is a decimal, so there is a double nearest to it; it might be too
large to be finite, and then nothing would be read. This does not happen
(`parseNumber_displayNumber_isFinite`). A whole number is read back as it is, however large. Any
other is below `2 ^ 53`, and rounding it to four places does not carry it far.
-/

set_option autoImplicit false

namespace FormulaTable

/-! ## Fractions that are not too large -/

/-- Far below the largest double, the double nearest to a fraction is finite. -/
theorem nearestBits_lt_infinityBits {numerator denominator : ℕ} (hpos : 0 < denominator)
    (hlt : numerator < denominator * 2 ^ 100) :
    nearestBits numerator denominator < infinityBits := by
  rw [nearestBits]
  split
  · decide
  · next hne =>
      -- The power of two of the result, in terms of the sizes of both parts.
      have hsizes : numerator.log2 ≤ denominator.log2 + 100 := by
        have hpower : numerator < 2 ^ (denominator.log2 + 1 + 100) := by
          rw [pow_add 2 (denominator.log2 + 1)]
          exact hlt.trans_le (Nat.mul_le_mul_right _ Nat.lt_log2_self.le)
        have hlog := (Nat.log2_lt hne).mpr hpower
        omega
      have hfloor : (numerator.log2 : ℤ) - denominator.log2 - 1 ≤ floorLog2 numerator denominator ∧
          floorLog2 numerator denominator ≤ (numerator.log2 : ℤ) - denominator.log2 := by
        rw [floorLog2]
        split <;> omega
      generalize hunit : max (-1074) (floorLog2 numerator denominator - 52) = unit
      -- Counted in this power, the fraction is a number of at most fifty-four bits.
      have hquotient : numerator <<< (-unit).toNat / denominator <<< unit.toNat < 2 ^ 54 := by
        rw [Nat.shiftLeft_eq, Nat.shiftLeft_eq]
        apply Nat.div_lt_of_lt_mul
        calc numerator * 2 ^ (-unit).toNat
            < 2 ^ (numerator.log2 + 1) * 2 ^ (-unit).toNat :=
              Nat.mul_lt_mul_of_pos_right Nat.lt_log2_self (Nat.two_pow_pos _)
          _ = 2 ^ (numerator.log2 + 1 + (-unit).toNat) := (pow_add 2 _ _).symm
          _ ≤ 2 ^ (denominator.log2 + unit.toNat + 54) :=
            Nat.pow_le_pow_right Nat.two_pos (by omega)
          _ = 2 ^ denominator.log2 * 2 ^ unit.toNat * 2 ^ 54 := by rw [pow_add, pow_add]
          _ ≤ denominator * 2 ^ unit.toNat * 2 ^ 54 :=
              Nat.mul_le_mul_right _ (Nat.mul_le_mul_right _ (Nat.log2_self_le hpos.ne'))
      have hround : roundHalfEven (numerator <<< (-unit).toNat) (denominator <<< unit.toNat)
          ≤ 2 ^ 54 := by
        rw [roundHalfEven]
        split <;> omega
      show (unit + 1074).toNat * leadingOne + roundHalfEven _ _ < infinityBits
      rw [infinityBits, leadingOne]
      omega

/-- The double with a sign nearest to a fraction that is not too large. -/
theorem exists_nearest? (negative : Bool) {numerator denominator : ℕ} (hpos : 0 < denominator)
    (hlt : numerator < denominator * 2 ^ 100) :
    ∃ y, nearest? negative numerator denominator = some y := by
  rw [nearest?]
  exact ⟨_, if_pos (nearestBits_lt_infinityBits hpos hlt)⟩

/-- A decimal without a power of ten that is not too large is read as a double. -/
theorem Decimal.exists_nearest? (negative : Bool) {coefficient places : ℕ}
    (hlt : coefficient < 10 ^ places * 2 ^ 100) :
    ∃ y, ({ negative, coefficient, exponent := -places } : Decimal).nearest? = some y := by
  have hzero : ∃ y, FormulaTable.nearest? negative 0 1 = some y :=
    FormulaTable.exists_nearest? negative Nat.one_pos (by positivity)
  have hlimit : ¬ powerLimit < -(places : ℤ) := by
    rw [powerLimit]
    omega
  rw [nearest?, if_neg hlimit]
  split
  · exact hzero
  · split
    · exact hzero
    · rw [Int.toNat_neg_natCast, neg_neg, Int.toNat_natCast]
      exact FormulaTable.exists_nearest? negative (Nat.pow_pos (by decide)) (by simpa using hlt)

/-! ## What is shown -/

/-- There is nothing to trim from a decimal. -/
theorem CanonicalDecimal.trim_chars (d : CanonicalDecimal) : Text.trim d.chars = d.chars := by
  have hminus : Text.isBlank '-' = false := by decide
  apply Text.trim_of_noBlanks
  rw [chars, List.forall_mem_append]
  refine ⟨?_, d.not_isBlank_of_mem⟩
  split
  · simpa using hminus
  · simp

/-- A decimal that is not too large is read as a double. -/
theorem CanonicalDecimal.exists_parseNumber {d : CanonicalDecimal} (h : |d.value| < 2 ^ 100) :
    ∃ y, parseNumber d.chars = some y := by
  have hlt : decimalValue (d.whole ++ d.fraction) < 10 ^ d.fraction.length * 2 ^ 100 := by
    have habs : |d.value| = d.toUnsignedDecimal.value := by
      rw [abs_value_eq, value_eq_count]
    rw [habs, UnsignedDecimal.value_eq, div_lt_iff₀ (by positivity), mul_comm] at h
    exact_mod_cast h
  rw [parseNumber, d.trim_chars, chars, ofChars?_decimal]
  exact Decimal.exists_nearest? d.negative hlt

/-- A finite double that is not whole is below `2 ^ 53`. -/
theorem abs_exactValue_lt {x : Float} (hfinite : x.isFinite) (hwhole : ¬ IsWhole x) :
    |exactValue x| < 2 ^ 53 := by
  have hbits := toBits_mod_signBit x
  have hdvd : ¬ (Binary.ofFloat x).denominator ∣ (Binary.ofFloat x).numerator :=
    fun h => hwhole ⟨hfinite, h⟩
  rw [exactValue_eq hfinite]
  generalize Binary.ofFloat x = b at hbits hdvd ⊢
  have hsignificand : b.significand < 2 ^ 53 := by
    rcases hbits with ⟨hlow, -, -⟩ | ⟨⟨-, hhigh⟩, -, -⟩
    · rw [leadingOne] at hlow
      omega
    · rw [leadingOne] at hhigh
      omega
  -- With a whole exponent the number would be whole, so the mantissa is divided and not multiplied.
  have hexponent : b.exponent < 0 := by
    by_contra hnonneg
    apply hdvd
    have hone : (-b.exponent).toNat = 0 := by omega
    rw [Binary.denominator, hone]
    exact Nat.one_dvd _
  have hnumerator : b.numerator = b.significand := by
    rw [Binary.numerator, Int.toNat_of_nonpos hexponent.le]
    rfl
  have hdenominator : (1 : ℚ) ≤ b.denominator := by exact_mod_cast b.denominator_pos
  have hsize : |b.value| = b.numerator / b.denominator := by
    rw [Binary.value, abs_mul,
      abs_of_nonneg (by positivity : (0 : ℚ) ≤ b.numerator / b.denominator)]
    split <;> simp
  calc |b.value| = b.numerator / b.denominator := hsize
    _ ≤ b.numerator := div_le_self (by positivity) hdenominator
    _ < 2 ^ 53 := by
      rw [hnumerator]
      exact_mod_cast hsignificand

/-- Rounding to four places carries a number by less than one. -/
theorem abs_shownValue_lt (q : ℚ) : |shownValue q| < |q| + 1 := by
  have hnear := (isNearestEven_roundEven (q * 10000)).abs_sub_le_half
  have hdifference : |shownValue q - q| < 1 := by
    have hscaled : shownValue q - q = -(q * 10000 - roundEven (q * 10000)) / 10000 := by
      rw [shownValue_eq_roundEven]
      field_simp
      ring
    rw [hscaled, abs_div, abs_neg, abs_of_pos (by norm_num : (0 : ℚ) < 10000),
      div_lt_one (by norm_num)]
    linarith
  calc |shownValue q| = |q + (shownValue q - q)| := by rw [add_sub_cancel]
    _ ≤ |q| + |shownValue q - q| := abs_add_le _ _
    _ < |q| + 1 := by linarith

/-- What is shown of a finite double is read as a finite double again. -/
theorem parseNumber_displayNumber_isFinite {x : Float} (h : x.isFinite) :
    ∃ y, parseNumber (displayNumber x).toList = some y ∧ y.isFinite := by
  have hread : ∃ y, parseNumber (displayNumber x).toList = some y := by
    by_cases hwhole : IsWhole x
    · obtain ⟨y, hy, -⟩ := parseNumber_displayNumber hwhole
      exact ⟨y, hy⟩
    · obtain ⟨d, hchars, hvalue⟩ := exists_canonical h
      rw [hchars]
      apply CanonicalDecimal.exists_parseNumber
      rw [hvalue]
      calc |shownValue (exactValue x)| < |exactValue x| + 1 := abs_shownValue_lt _
        _ < 2 ^ 53 + 1 := by linarith [abs_exactValue_lt h hwhole]
        _ ≤ 2 ^ 100 := by norm_num
  obtain ⟨y, hy⟩ := hread
  exact ⟨y, hy, isFinite_of_parseNumber hy⟩

end FormulaTable
