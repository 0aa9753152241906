import FormulaTable.Number.Decimal
import FormulaTable.Number.Display
import FormulaTable.Proofs.Formula.Form
import FormulaTable.Proofs.Number.Finite
import FormulaTable.Proofs.Number.Total
import FormulaTable.Proofs.Text.Trim

/-!
# `FormulaTable.Proofs.Number.ReadBack`: whole numbers are read back from what is shown

A table shows a number rounded to four places, so reading what is shown does not in general give the
number back. For a whole number it does, however large it is (`parseNumber_displayNumber`), except
that minus zero is shown without its sign.

The number is shown as its digits, and they are read as the same whole number. It is left to see
that the double nearest to that is the one it came from. `nearestBits_whole` says so of the
significand and the power of two that a double consists of; `toBits_mod_signBit` takes these from
the bits of a double, and `toBits_eq_sign_add` takes the sign.
-/

set_option autoImplicit false

namespace FormulaTable

open Float.Model (Format UnpackedFloat)

/-- A finite double without a fraction. -/
structure IsWhole (x : Float) : Prop where
  isFinite : x.isFinite
  denominator_dvd : (Binary.ofFloat x).denominator ∣ (Binary.ofFloat x).numerator

/-! ## Rounding what is exact -/

/-- An exact quotient is rounded to itself. -/
theorem roundHalfEven_mul (quotient : Nat) {divisor : Nat} (h : 0 < divisor) :
    roundHalfEven (quotient * divisor) divisor = quotient := by
  rw [roundHalfEven, Nat.mul_div_cancel _ h, Nat.mul_mod_left]
  simp [h]

/-- The logarithm of a quotient by one is that of the number. -/
theorem floorLog2_one {n : Nat} (h : n ≠ 0) : floorLog2 n 1 = n.log2 := by
  have hone : (1 : Nat).log2 = 0 := by decide
  have hle : ¬ n < 1 <<< n.log2 := by
    rw [Nat.one_shiftLeft, Nat.not_lt]
    exact Nat.log2_self_le h
  simp [floorLog2, hone, hle]

/-- Every factor of two adds one to the logarithm. -/
theorem log2_mul_two_pow {n : Nat} (h : n ≠ 0) (k : Nat) : (n * 2 ^ k).log2 = n.log2 + k := by
  have hpos : n * 2 ^ k ≠ 0 := Nat.mul_ne_zero h (Nat.two_pow_pos k).ne'
  rw [Nat.log2_eq_iff hpos]
  constructor
  · rw [Nat.pow_add]
    exact Nat.mul_le_mul_right _ (Nat.log2_self_le h)
  · rw [Nat.add_right_comm, Nat.pow_add]
    exact Nat.mul_lt_mul_of_pos_right Nat.lt_log2_self (Nat.two_pow_pos k)

/-- A whole number that has a significand of fifty-three bits is itself the nearest double. Either
the number is the significand times a power of two, or the significand is the number times one. -/
theorem nearestBits_whole {n significand : Nat} {exponent : Int}
    (hsignificand : leadingOne ≤ significand ∧ significand < 2 * leadingOne)
    (hexponent : -1074 ≤ exponent)
    (hn : n * 2 ^ (-exponent).toNat = significand * 2 ^ exponent.toNat) :
    nearestBits n 1 = (exponent + 1074).toNat * leadingOne + significand := by
  obtain ⟨hlow, hhigh⟩ := hsignificand
  have hne : significand ≠ 0 := by
    rw [leadingOne] at hlow
    omega
  have hn_ne : n ≠ 0 := by
    rintro rfl
    rw [Nat.zero_mul] at hn
    exact Nat.mul_ne_zero hne (Nat.two_pow_pos _).ne' hn.symm
  -- The power of two of the result is the one that the number has.
  have hlog : (floorLog2 n 1 : Int) = 52 + exponent := by
    have hbits : significand.log2 = 52 := by
      rw [Nat.log2_eq_iff hne]
      exact ⟨hlow, hhigh⟩
    have hboth := congrArg Nat.log2 hn
    rw [log2_mul_two_pow hn_ne, log2_mul_two_pow hne, hbits] at hboth
    rw [floorLog2_one hn_ne]
    omega
  have hunit : max (-1074) (floorLog2 n 1 - 52) = exponent := by
    omega
  have hround : roundHalfEven (n <<< (-exponent).toNat) (1 <<< exponent.toNat) = significand := by
    rw [Nat.shiftLeft_eq, Nat.one_shiftLeft, hn]
    exact roundHalfEven_mul significand (Nat.two_pow_pos _)
  simp only [nearestBits, if_neg hn_ne, hunit, hround]

/-! ## The bits of a double -/

/-- The highest bit of a double is its sign. -/
theorem toBits_eq_sign_add (x : Float) :
    x.toBits.toNat
      = (if (Binary.ofFloat x).negative then signBit else 0) + x.toBits.toNat % signBit := by
  have hlt : x.toBits.toNat < 2 ^ 64 := x.toBits.toNat_lt
  by_cases hnegative : signBit ≤ x.toBits.toNat
  · have hflag : (Binary.ofFloat x).negative = true := decide_eq_true hnegative
    rw [hflag, if_pos rfl]
    rw [signBit] at hnegative ⊢
    omega
  · have hflag : (Binary.ofFloat x).negative = false := decide_eq_false hnegative
    rw [hflag, if_neg Bool.false_ne_true]
    rw [signBit] at hnegative ⊢
    omega

/-- The other bits are the power of two and the significand. Without a one in front of the fraction
the power is the smallest. -/
theorem toBits_mod_signBit (x : Float) :
    let b := Binary.ofFloat x
    (b.significand < leadingOne ∧ b.exponent = -1074 ∧ x.toBits.toNat % signBit = b.significand) ∨
      ((leadingOne ≤ b.significand ∧ b.significand < 2 * leadingOne) ∧ -1074 ≤ b.exponent ∧
        x.toBits.toNat % signBit = (b.exponent + 1074).toNat * leadingOne + b.significand) := by
  intro b
  -- Subnormal numbers have no leading one, and their exponent is that of the smallest normal ones.
  by_cases hfield : x.toBits.toNat / leadingOne % 2048 = 0
  · left
    have hsignificand : b.significand = x.toBits.toNat % leadingOne := if_pos hfield
    have hexponent : b.exponent = -1074 := if_pos hfield
    rw [hsignificand]
    rw [leadingOne] at hfield ⊢
    rw [signBit]
    exact ⟨by omega, hexponent, by omega⟩
  · right
    have hsignificand : b.significand = leadingOne + x.toBits.toNat % leadingOne := if_neg hfield
    have hexponent : b.exponent = (x.toBits.toNat / leadingOne % 2048 : Nat) - 1075 := if_neg hfield
    rw [hsignificand, hexponent]
    rw [leadingOne] at hfield ⊢
    rw [signBit]
    omega

/-- What is finite is a number. -/
theorem not_isNaN_of_isFinite {x : Float} (h : x.isFinite) : x.isNaN = false := by
  have hfinite : x.toModel.unpack.isFinite = true := h
  show x.toModel.unpack.isNaN = false
  cases hx : x.toModel.unpack with
  | notANumber =>
      rw [hx] at hfinite
      cases hfinite
  | infinity sign => rfl
  | zero sign => rfl
  | finite sign mantissa exponent hpos => rfl

/-- Without the sign, the bits of a finite double are below those of infinity. -/
theorem toBits_mod_lt_of_isFinite {x : Float} (h : x.isFinite) :
    x.toBits.toNat % signBit < infinityBits := by
  have hfield : x.toBits.toNat / leadingOne % 2048 ≠ 2047 := by
    intro hones
    let packed : BitVec Format.binary64.numBits := x.toModel.toBits.toBitVec
    have hones' : x.toModel.toBits.toNat / leadingOne % 2048 = 2047 := hones
    -- An exponent field of ones belongs to an infinity or to no number at all.
    have hexponent : UnpackedFloat.unpackExponent packed = -1#_ := by
      apply BitVec.eq_of_toNat_eq
      simpa [packed, UnpackedFloat.unpackExponent, Nat.shiftRight_eq_div_pow, leadingOne]
        using hones'
    have hfinite : (UnpackedFloat.unpack .binary64 packed).isFinite = true := h
    rw [UnpackedFloat.unpack, if_pos hexponent] at hfinite
    split at hfinite <;> cases hfinite
  have hlt : x.toBits.toNat < 2 ^ 64 := x.toBits.toNat_lt
  rw [signBit, infinityBits]
  rw [leadingOne] at hfield ⊢
  omega

/-! ## Shown and read -/

/-- A whole number is shown as its digits; zero has no sign. -/
theorem displayNumber_whole {x : Float} (h : IsWhole x) :
    ∃ n, (Binary.ofFloat x).numerator = n * (Binary.ofFloat x).denominator ∧
      (displayNumber x).toList
        = (if (Binary.ofFloat x).negative && n != 0 then ['-'] else []) ++ Nat.toDigits 10 n := by
  obtain ⟨n, hn⟩ := h.denominator_dvd
  rw [Nat.mul_comm] at hn
  refine ⟨n, hn, ?_⟩
  -- A whole number is not rounded, and its four places are zeros.
  have hround : roundHalfEven ((Binary.ofFloat x).numerator * 10000) (Binary.ofFloat x).denominator
      = n * 10000 := by
    rw [hn, Nat.mul_right_comm]
    exact roundHalfEven_mul _ (Binary.denominator_pos _)
  have hsign : (n * 10000 != 0) = (n != 0) := by
    cases n <;> simp
  rw [displayNumber, not_isNaN_of_isFinite h.isFinite, if_neg Bool.false_ne_true,
    if_pos h.isFinite, String.toList_ofList, Binary.display, hround, tenThousandths, hsign,
    Nat.mul_div_cancel _ (by decide), fractionChars, if_pos (Nat.mul_mod_left _ _), List.append_nil]

/-- Digits with or without a minus in front are read as the whole number they spell. -/
theorem ofChars?_digits (negative : Bool) (n : Nat) :
    Decimal.ofChars? ((if negative then ['-'] else []) ++ Nat.toDigits 10 n)
      = some { negative, coefficient := n, exponent := 0 } := by
  have hdigits : ∀ c ∈ Nat.toDigits 10 n, c.isDigit :=
    fun c hc => Nat.isDigit_of_mem_toDigits (by decide) (by decide) hc
  have hsign : Decimal.takeSign ((if negative then ['-'] else []) ++ Nat.toDigits 10 n)
      = (negative, Nat.toDigits 10 n) := by
    cases negative with
    | true => rfl
    | false =>
        -- The first digit is no sign.
        obtain ⟨d, rest, hd⟩ := List.exists_cons_of_ne_nil (Nat.toDigits_ne_nil (b := 10) (n := n))
        have hdigit : d.isDigit := hdigits d (by simp [hd])
        rw [if_neg Bool.false_ne_true, List.nil_append, hd, Decimal.takeSign]
        · rintro _ ⟨⟩
          cases hdigit
        · rintro _ ⟨⟩
          cases hdigit
  have htake : (Nat.toDigits 10 n).takeWhile Char.isDigit = Nat.toDigits 10 n :=
    List.takeWhile_eq_self_iff.mpr hdigits
  have hdrop : (Nat.toDigits 10 n).dropWhile Char.isDigit = [] :=
    List.dropWhile_eq_nil_iff.mpr hdigits
  have hvalue : decimalValue (Nat.toDigits 10 n) = n := by
    rw [decimalValue_eq, Nat.ofDigitChars_ten_toDigits]
  simp [Decimal.ofChars?, hsign, htake, hdrop, hvalue, Decimal.exponentOf?, Nat.toDigits_ne_nil]

/-- A whole number in decimal notation is taken as it stands. -/
theorem nearest?_whole (negative : Bool) (n : Nat) :
    ({ negative, coefficient := n, exponent := 0 } : Decimal).nearest? = nearest? negative n 1 := by
  by_cases hn : n = 0
  · rw [Decimal.nearest?, if_pos hn, hn]
  · have hsmall : ¬ (0 : Int) + (n.log2 : Int) + 1 < -Decimal.powerLimit := by
      rw [Decimal.powerLimit]
      omega
    have hlimit : ¬ Decimal.powerLimit < 0 := by decide
    rw [Decimal.nearest?, if_neg hn, if_neg hlimit, if_neg hsmall]
    simp

/-- A double with the bits of a zero equals zero. -/
theorem beq_zero_of_toBits {x : Float} (h : x.toBits.toNat % signBit = 0) : (x == 0) = true := by
  have hbits := toBits_eq_sign_add x
  rw [h, Nat.add_zero] at hbits
  rw [← Float.ofBits_toBits x, ← UInt64.ofNat_toNat (x := x.toBits), hbits]
  split <;> decide

/-- The double nearest to a whole number that a double stands for is that double, except for the
sign of zero. -/
theorem nearest?_of_whole {x : Float} (hfinite : x.isFinite) {n : Nat}
    (hn : (Binary.ofFloat x).numerator = n * (Binary.ofFloat x).denominator) :
    ∃ y, nearest? ((Binary.ofFloat x).negative && n != 0) n 1 = some y ∧ SameNumber y x := by
  have hlimit := toBits_mod_lt_of_isFinite hfinite
  have hsign := toBits_eq_sign_add x
  have hbits := toBits_mod_signBit x
  generalize Binary.ofFloat x = b at hn hsign hbits ⊢
  rw [Binary.numerator, Binary.denominator, Nat.shiftLeft_eq, Nat.one_shiftLeft] at hn
  by_cases hzero : n = 0
  · subst hzero
    have hsignificand : b.significand = 0 := by
      rw [Nat.zero_mul, Nat.mul_eq_zero] at hn
      exact hn.resolve_right (Nat.two_pow_pos _).ne'
    have hx : (x == 0) = true := by
      apply beq_zero_of_toBits
      rcases hbits with ⟨-, -, hmod⟩ | ⟨⟨hlow, -⟩, -⟩
      · rw [hmod, hsignificand]
      · rw [hsignificand, leadingOne] at hlow
        omega
    refine ⟨0, ?_, Or.inr ⟨by decide, hx⟩⟩
    rw [bne_self_eq_false, Bool.and_false]
    rfl
  · have hmod : nearestBits n 1 = x.toBits.toNat % signBit := by
      rcases hbits with ⟨hlow, hexponent, -⟩ | ⟨hsignificand, hexponent, hmod⟩
      · -- Below the smallest normal double there is no whole number but zero.
        rw [hexponent] at hn
        have hlarge : leadingOne ≤ b.significand :=
          calc leadingOne = 2 ^ 52 := by decide
            _ ≤ 2 ^ (-(-1074 : Int)).toNat := Nat.pow_le_pow_right Nat.two_pos (by decide)
            _ ≤ n * 2 ^ (-(-1074 : Int)).toNat :=
              Nat.le_mul_of_pos_left _ (Nat.pos_of_ne_zero hzero)
            _ = b.significand * 2 ^ (-1074 : Int).toNat := hn.symm
            _ = b.significand := Nat.mul_one _
        exact absurd hlow (Nat.not_lt.mpr hlarge)
      · rw [hmod]
        exact nearestBits_whole hsignificand hexponent hn.symm
    have hsame : (if b.negative && n != 0 then signBit + x.toBits.toNat % signBit
        else x.toBits.toNat % signBit) = x.toBits.toNat := by
      have hflag : (b.negative && n != 0) = b.negative := by simp [hzero]
      rw [hflag]
      cases hnegative : b.negative <;> simpa [hnegative] using hsign.symm
    refine ⟨x, ?_, .refl x⟩
    simp only [nearest?, hmod, if_pos hlimit, hsame]
    rw [UInt64.ofNat_toNat, Float.ofBits_toBits]

/-- A whole number is read back from what is shown of it, except for the sign of zero. -/
theorem parseNumber_displayNumber {x : Float} (h : IsWhole x) :
    ∃ y, parseNumber (displayNumber x).toList = some y ∧ SameNumber y x := by
  obtain ⟨n, hn, hshown⟩ := displayNumber_whole h
  obtain ⟨y, hy, hsame⟩ := nearest?_of_whole h.isFinite hn
  refine ⟨y, ?_, hsame⟩
  -- There is nothing to trim from a sign and digits.
  have htrim : Text.trim (displayNumber x).toList = (displayNumber x).toList := by
    apply Text.trim_of_noBlanks
    intro c hc
    rw [hshown, List.mem_append] at hc
    rcases hc with hc | hc
    · split at hc
      · obtain rfl := List.mem_singleton.mp hc
        decide
      · cases hc
    · exact not_isBlank_of_isAlphanum
        (isAlphanum_of_isDigit (Nat.isDigit_of_mem_toDigits (by decide) (by decide) hc))
  rw [parseNumber, htrim, hshown, ofChars?_digits]
  exact (nearest?_whole _ n).trans hy

end FormulaTable
