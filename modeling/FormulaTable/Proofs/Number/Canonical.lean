import FormulaTable.Proofs.Formula.Leaf
import FormulaTable.Proofs.Number.DigitRow
import FormulaTable.Proofs.Number.Exact
import FormulaTable.Proofs.Number.ReadBack

/-!
# `FormulaTable.Proofs.Number.Canonical`: a number is shown as one canonical decimal

A decimal with up to four places can be written in many ways: with zeros in front or behind, with a
point that nothing follows, with a minus in front of zero. `CanonicalDecimal` has none of these, so
every number that has such decimals has exactly one (`CanonicalDecimal.eq_of_value_eq`).

What is shown of a finite double is this decimal of the number nearest to the double with four
places, and of a whole one of the double itself: `displayNumber_canonical`. Both a decimal and what
is shown are compared through the ten-thousandths that they count (`CanonicalDecimal.count`).
-/

set_option autoImplicit false

namespace FormulaTable

/-! ## The end of a text -/

/-- Dropping a character from the end stops where another one stands. -/
theorem rdropWhile_append_replicate {c : Char} {text : List Char} (h : text.getLast? ≠ some c)
    (k : ℕ) :
    (text ++ List.replicate k c).rdropWhile (· == c) = text := by
  have hdrop : ∀ d ∈ List.replicate k c, (d == c) = true := by
    intro d hd
    rw [List.eq_of_mem_replicate hd]
    exact beq_self_eq_true c
  rw [List.rdropWhile, List.reverse_append, List.reverse_replicate,
    List.dropWhile_append_of_pos hdrop, ← List.rdropWhile, List.rdropWhile_eq_self_iff]
  intro hne hlast
  rw [beq_iff_eq] at hlast
  exact h (by rw [List.getLast?_eq_some_getLast hne, hlast])

/-- Any text ends in so and so many of a character, and another one or none before. -/
theorem exists_append_replicate (c : Char) (text : List Char) :
    ∃ front k, text = front ++ List.replicate k c ∧ front.getLast? ≠ some c := by
  refine ⟨text.rdropWhile (· == c), (text.rtakeWhile (· == c)).length, ?_, ?_⟩
  · -- What is taken from the end consists of that character only.
    have hall : text.rtakeWhile (· == c)
        = List.replicate (text.rtakeWhile (· == c)).length c := by
      apply List.eq_replicate_of_mem
      intro d hd
      have hd' := List.mem_rtakeWhile_imp hd
      exact beq_iff_eq.mp hd'
    rw [← hall, List.rdropWhile_append_rtakeWhile]
  · intro hlast
    have hne : text.rdropWhile (· == c) ≠ [] := by
      intro hnil
      rw [hnil] at hlast
      cases hlast
    rw [List.getLast?_eq_some_getLast hne, Option.some.injEq] at hlast
    exact List.rdropWhile_last_not _ _ hne (by rw [hlast, beq_self_eq_true])

/-! ## Canonical decimals -/

/-- The number that digits with or without a point stand for. -/
def UnsignedDecimal.value (d : UnsignedDecimal) : ℚ :=
  placeValue 10 digitValue d.whole + placeValue 10 digitValue d.fraction / 10 ^ d.fraction.length

/-- A decimal with up to four places, in which nothing is superfluous: no zero in front, none at the
end, and no minus in front of zero. -/
structure CanonicalDecimal extends UnsignedDecimal where
  negative : Bool
  noSpareZero : NoSpareZero whole
  fraction_length_le : fraction.length ≤ 4
  getLast?_fraction_ne : fraction.getLast? ≠ some '0'
  ne_zero_of_negative : negative → ¬ (whole = ['0'] ∧ fraction = [])

namespace CanonicalDecimal

/-- A decimal as it is written. -/
def chars (d : CanonicalDecimal) : List Char :=
  (if d.negative then ['-'] else []) ++ d.toUnsignedDecimal.chars

/-- The number that a decimal stands for. -/
def value (d : CanonicalDecimal) : ℚ :=
  if d.negative then -d.toUnsignedDecimal.value else d.toUnsignedDecimal.value

/-- The digits behind the point, filled up with zeros to four. -/
def places (d : CanonicalDecimal) : List Char :=
  d.fraction ++ List.replicate (4 - d.fraction.length) '0'

/-- The ten-thousandths that the digits stand for. -/
def count (d : CanonicalDecimal) : ℕ :=
  placeValue 10 digitValue d.whole * 10000 + placeValue 10 digitValue d.places

section
variable (d : CanonicalDecimal)

/-- There are four places. -/
theorem length_places : d.places.length = 4 := by
  have hle := d.fraction_length_le
  rw [places, List.length_append, List.length_replicate]
  omega

/-- The places are digits. -/
theorem isDigit_of_mem_places : ∀ c ∈ d.places, c.isDigit := by
  rw [places, List.forall_mem_append]
  exact ⟨d.fraction_isDigit, isDigit_of_mem_zeros _⟩

/-- The places stand for the fraction, with the zeros that fill it up. -/
theorem placeValue_places :
    placeValue 10 digitValue d.places
      = placeValue 10 digitValue d.fraction * 10 ^ (4 - d.fraction.length) := by
  rw [places, placeValue_append, placeValue_zeros, List.length_replicate, Nat.add_zero]

/-- The value is the count of ten-thousandths. -/
theorem value_eq_count : d.toUnsignedDecimal.value = d.count / 10000 := by
  have hsplit : (10 : ℚ) ^ d.fraction.length * 10 ^ (4 - d.fraction.length) = 10000 := by
    rw [← pow_add, Nat.add_sub_cancel' d.fraction_length_le]
    norm_num
  have hpos : (10 : ℚ) ^ d.fraction.length ≠ 0 := by positivity
  rw [UnsignedDecimal.value, count, placeValue_places, ← hsplit]
  push_cast
  rw [← hsplit]
  field_simp

/-- The places stand for less than ten thousand. -/
theorem placeValue_places_lt : placeValue 10 digitValue d.places < 10000 := by
  have hlt := placeValue_lt d.isDigit_of_mem_places
  rwa [length_places] at hlt

/-- In front of the point stands the count without its last four digits. -/
theorem count_div : d.count / 10000 = placeValue 10 digitValue d.whole := by
  have hlt := d.placeValue_places_lt
  rw [count]
  omega

/-- Behind the point stand the last four digits of the count. -/
theorem count_mod : d.count % 10000 = placeValue 10 digitValue d.places := by
  have hlt := d.placeValue_places_lt
  rw [count]
  omega

/-- The count gives the whole part back. -/
theorem whole_eq : d.whole = Nat.toDigits 10 (d.count / 10000) := by
  apply eq_of_placeValue_eq d.whole_isDigit (isDigit_of_mem_toDigits _) _
    ⟨d.whole_ne_nil, d.noSpareZero⟩
    ⟨Nat.toDigits_ne_nil, noSpareZero_toDigits _⟩
  rw [placeValue_toDigits, count_div]

/-- The count gives the places back. -/
theorem places_eq : d.places = fourDigits (d.count % 10000) := by
  apply eq_of_placeValue_eq_of_length d.isDigit_of_mem_places (isDigit_of_mem_fourDigits _) _
    d.length_places
  rw [placeValue_fourDigits (Nat.mod_lt _ (by decide)), count_mod]

/-- The digits behind the point are the places without the zeros at the end. -/
theorem fraction_eq : d.fraction = d.places.rdropWhile (· == '0') :=
  (rdropWhile_append_replicate d.getLast?_fraction_ne _).symm

/-- The digits are written as the count is. -/
theorem toUnsignedDecimal_chars :
    d.toUnsignedDecimal.chars = Nat.toDigits 10 (d.count / 10000) ++ fractionChars d.count := by
  -- No digit remains behind the point exactly if all four places are zero.
  have hwhole : d.count % 10000 = 0 ↔ d.fraction = [] := by
    have hzero : fourDigits 0 = List.replicate 4 '0' := rfl
    constructor
    · intro h
      rw [fraction_eq, places_eq, h, hzero]
      rfl
    · intro h
      have hplaces : d.places = List.replicate 4 '0' := by
        rw [places, h, List.nil_append, List.length_nil]
      have hvalue := d.count_mod
      rw [hplaces, placeValue_zeros] at hvalue
      exact hvalue
  rw [UnsignedDecimal.chars, ← whole_eq, fractionChars, ← places_eq, ← List.rdropWhile,
    ← fraction_eq]
  congr 1
  by_cases h : d.fraction = []
  · rw [if_pos (List.isEmpty_iff.mpr h), if_pos (hwhole.mpr h)]
  · rw [if_neg (fun hempty => h (List.isEmpty_iff.mp hempty)),
      if_neg (fun hzero => h (hwhole.mp hzero))]

/-- Only a single zero without a fraction stands for zero. -/
theorem count_eq_zero_iff : d.count = 0 ↔ d.whole = ['0'] ∧ d.fraction = [] := by
  constructor
  · intro h
    rw [fraction_eq, places_eq, whole_eq, h]
    exact ⟨rfl, rfl⟩
  · rintro ⟨hwhole, hfraction⟩
    rw [count, places, hwhole, hfraction]
    rfl

/-- A canonical decimal is written as its count of ten-thousandths is. -/
theorem chars_eq : d.chars = tenThousandths d.negative d.count := by
  have hsign : (d.negative && d.count != 0) = d.negative := by
    cases hnegative : d.negative with
    | false => rfl
    | true => simpa [count_eq_zero_iff] using d.ne_zero_of_negative hnegative
  rw [chars, toUnsignedDecimal_chars, tenThousandths, hsign, List.append_assoc]

end

/-- The sign and the count make the decimal. -/
theorem eq_of_count_eq {d d' : CanonicalDecimal} (hnegative : d.negative = d'.negative)
    (hcount : d.count = d'.count) : d = d' := by
  have hwhole : d.whole = d'.whole := by rw [whole_eq, hcount, ← whole_eq]
  have hfraction : d.fraction = d'.fraction := by
    rw [fraction_eq, places_eq, hcount, ← places_eq, ← fraction_eq]
  obtain ⟨⟨whole, fraction, _, _, _⟩, negative, _, _, _, _⟩ := d
  obtain ⟨⟨whole', fraction', _, _, _⟩, negative', _, _, _, _⟩ := d'
  obtain rfl : whole = whole' := hwhole
  obtain rfl : fraction = fraction' := hfraction
  obtain rfl : negative = negative' := hnegative
  rfl

/-- Any count is that of a decimal, with a minus or, unless it is none, without one. -/
theorem exists_of_count (negative : Bool) (n : ℕ) (h : negative → n ≠ 0) :
    ∃ d : CanonicalDecimal, d.negative = negative ∧ d.count = n := by
  -- The digits behind the point are the four places without their zeros at the end.
  obtain ⟨fraction, k, hfour, hlast⟩ := exists_append_replicate '0' (fourDigits (n % 10000))
  have hlength : fraction.length + k = 4 := by
    have hboth := congrArg List.length hfour
    rwa [length_fourDigits, List.length_append, List.length_replicate, eq_comm] at hboth
  have hvalue : placeValue 10 digitValue (fourDigits (n % 10000)) = n % 10000 :=
    placeValue_fourDigits (Nat.mod_lt _ (by decide))
  have hdigits : ∀ c ∈ fraction, c.isDigit := by
    intro c hc
    apply isDigit_of_mem_fourDigits (n % 10000) c
    rw [hfour]
    exact List.mem_append_left _ hc
  have hne : negative → ¬ (Nat.toDigits 10 (n / 10000) = ['0'] ∧ fraction = []) := by
    rintro hnegative ⟨hwhole, hfraction⟩
    have hhigh := placeValue_toDigits (n / 10000)
    have hzero : placeValue 10 digitValue ['0'] = 0 := rfl
    rw [hwhole, hzero] at hhigh
    rw [hfour, hfraction, List.nil_append, placeValue_zeros] at hvalue
    exact h hnegative (by omega)
  -- Each field of the record is one of the facts above.
  let d : CanonicalDecimal := {
    whole := Nat.toDigits 10 (n / 10000)
    fraction
    negative
    whole_ne_nil := Nat.toDigits_ne_nil
    whole_isDigit := isDigit_of_mem_toDigits _
    fraction_isDigit := hdigits
    noSpareZero := noSpareZero_toDigits _
    fraction_length_le := by omega
    getLast?_fraction_ne := hlast
    ne_zero_of_negative := hne }
  have hplaces : d.places = fourDigits (n % 10000) := by
    have hk : 4 - fraction.length = k := by omega
    show fraction ++ List.replicate (4 - fraction.length) '0' = _
    rw [hk, hfour]
  refine ⟨d, rfl, ?_⟩
  show placeValue 10 digitValue (Nat.toDigits 10 (n / 10000)) * 10000
    + placeValue 10 digitValue d.places = n
  rw [placeValue_toDigits, hplaces, hvalue]
  exact Nat.div_add_mod' n 10000

/-- The value of a canonical decimal is its count of ten-thousandths, with its sign. -/
theorem value_eq (d : CanonicalDecimal) :
    d.value = (if d.negative then -1 else 1) * (d.count / 10000) := by
  rw [value, value_eq_count]
  split <;> ring

/-- Without its sign, the value is the count of ten-thousandths. -/
theorem abs_value_eq (d : CanonicalDecimal) : |d.value| = d.count / 10000 := by
  have hnonneg : (0 : ℚ) ≤ d.count / 10000 := div_nonneg d.count.cast_nonneg (by norm_num)
  rw [value_eq, abs_mul, abs_of_nonneg hnonneg]
  split <;> simp

/-- The sign is that of the number, for zero has no minus. -/
theorem negative_eq (d : CanonicalDecimal) : d.negative = decide (d.value < 0) := by
  rw [value_eq]
  cases hnegative : d.negative with
  | false =>
      have hnonneg : (0 : ℚ) ≤ d.count / 10000 := div_nonneg d.count.cast_nonneg (by norm_num)
      simpa using hnonneg
  | true =>
      have hne : d.count ≠ 0 :=
        fun hzero => d.ne_zero_of_negative hnegative (d.count_eq_zero_iff.mp hzero)
      have hpos : (0 : ℚ) < d.count / 10000 :=
        div_pos (Nat.cast_pos.mpr (Nat.pos_of_ne_zero hne)) (by norm_num)
      simpa using hpos

/-- A number has one canonical decimal. -/
theorem eq_of_value_eq {d d' : CanonicalDecimal} (h : d.value = d'.value) : d = d' := by
  have hcount : (d.count : ℚ) = d'.count := by
    have habs := congrArg abs h
    rwa [abs_value_eq, abs_value_eq, div_left_inj' (by norm_num)] at habs
  exact eq_of_count_eq (by rw [negative_eq, negative_eq, h]) (Nat.cast_injective hcount)

end CanonicalDecimal

/-! ## How a decimal is read -/

/-- Digits with or without a point, and with or without a minus in front, are read as the decimal
that they spell. -/
theorem ofChars?_decimal (negative : Bool) (d : UnsignedDecimal) :
    Decimal.ofChars? ((if negative then ['-'] else []) ++ d.chars)
      = some { negative, coefficient := decimalValue (d.whole ++ d.fraction),
               exponent := -d.fraction.length } := by
  have hsign : Decimal.takeSign ((if negative then ['-'] else []) ++ d.chars)
      = (negative, d.chars) := by
    cases negative with
    | true => rfl
    | false =>
        -- The first digit is no sign.
        obtain ⟨c, rest, hchars, hdigit⟩ := d.exists_digit
        rw [if_neg Bool.false_ne_true, List.nil_append, hchars, Decimal.takeSign]
        · rintro _ ⟨⟩
          cases hdigit
        · rintro _ ⟨⟩
          cases hdigit
  have hwhole := d.whole_ne_nil
  rw [Decimal.ofChars?, hsign, UnsignedDecimal.chars]
  by_cases hfraction : d.fraction = []
  · have htake : d.whole.takeWhile Char.isDigit = d.whole :=
      List.takeWhile_eq_self_iff.mpr d.whole_isDigit
    have hdrop : d.whole.dropWhile Char.isDigit = [] :=
      List.dropWhile_eq_nil_iff.mpr d.whole_isDigit
    simp [hfraction, htake, hdrop, hwhole, Decimal.exponentOf?]
  · have hpoint : ('.' : Char).isDigit = false := rfl
    obtain ⟨htake, hdrop⟩ := Text.cut_append d.whole_isDigit hpoint d.fraction
    have htake' : d.fraction.takeWhile Char.isDigit = d.fraction :=
      List.takeWhile_eq_self_iff.mpr d.fraction_isDigit
    have hdrop' : d.fraction.dropWhile Char.isDigit = [] :=
      List.dropWhile_eq_nil_iff.mpr d.fraction_isDigit
    simp [hfraction, htake, hdrop, htake', hdrop', hwhole, Decimal.skipPoint, Decimal.exponentOf?]

/-- All digits together count as if the last of them were in the place of the ones. -/
theorem UnsignedDecimal.value_eq (d : UnsignedDecimal) :
    d.value = decimalValue (d.whole ++ d.fraction) / 10 ^ d.fraction.length := by
  rw [value, decimalValue_eq_placeValue, placeValue_append]
  push_cast
  field_simp

/-- A decimal is known from its text. -/
theorem CanonicalDecimal.eq_of_chars_eq {d d' : CanonicalDecimal} (h : d.chars = d'.chars) :
    d = d' := by
  have hread := ofChars?_decimal d.negative d.toUnsignedDecimal
  have hread' := ofChars?_decimal d'.negative d'.toUnsignedDecimal
  rw [← chars, h, chars, hread', Option.some.injEq, Decimal.mk.injEq] at hread
  obtain ⟨hnegative, hcoefficient, hexponent⟩ := hread
  have hlength : d'.fraction.length = d.fraction.length := by omega
  apply eq_of_value_eq
  rw [value, value, UnsignedDecimal.value_eq, UnsignedDecimal.value_eq, hnegative, hcoefficient,
    hlength]

/-! ## What is shown -/

/-- The number that is shown for another: itself if it is whole, and otherwise the nearest with four
places, of two equally near the one that is an even number of ten-thousandths. -/
def shownValue (q : ℚ) : ℚ :=
  if q.den = 1 then q else roundEven (q * 10000) / 10000

/-- The ten-thousandths of the number that is shown, without the sign. -/
def shownCount (q : ℚ) : ℕ :=
  (roundEven (|q| * 10000)).natAbs

/-- A whole number has no further places to lose. -/
theorem shownValue_eq_roundEven (q : ℚ) : shownValue q = roundEven (q * 10000) / 10000 := by
  rw [shownValue]
  split
  · next h =>
      have hwhole : q * 10000 = (q.num * 10000 : ℤ) := by
        push_cast
        rw [(Rat.den_eq_one_iff q).mp h]
      rw [hwhole, roundEven_intCast]
      push_cast
      rw [(Rat.den_eq_one_iff q).mp h]
      field_simp
  · rfl

/-- What is not negative is not negative when it is rounded. -/
theorem roundEven_nonneg {q : ℚ} (h : 0 ≤ q) : 0 ≤ roundEven q := by
  have hfloor : 0 ≤ ⌊q⌋ := Int.floor_nonneg.mpr h
  rw [roundEven]
  split <;> omega

/-- Rounding does not look at the sign. -/
theorem shownValue_eq (q : ℚ) :
    shownValue q = (if q < 0 then -1 else 1) * (shownCount q / 10000) := by
  have hcount : (shownCount q : ℚ) = roundEven (|q| * 10000) := by
    have hnonneg : 0 ≤ roundEven (|q| * 10000) := roundEven_nonneg (by positivity)
    rw [shownCount, Nat.cast_natAbs, abs_of_nonneg hnonneg]
  rw [shownValue_eq_roundEven, hcount]
  by_cases h : q < 0
  · rw [if_pos h, abs_of_neg h, neg_mul q, roundEven_neg]
    push_cast
    ring
  · rw [if_neg h, abs_of_nonneg (not_lt.mp h), one_mul]

/-- A finite double is shown as the ten-thousandths that its exact value is rounded to. -/
theorem displayNumber_eq {x : Float} (h : x.isFinite) :
    (displayNumber x).toList
      = tenThousandths (decide (exactValue x < 0)) (shownCount (exactValue x)) := by
  have hvalue := exactValue_eq h
  have hpos := (Binary.ofFloat x).denominator_pos
  rw [displayNumber, not_isNaN_of_isFinite h, if_neg Bool.false_ne_true, if_pos h,
    String.toList_ofList, Binary.display]
  generalize Binary.ofFloat x = b at hvalue hpos ⊢
  have hsize : (0 : ℚ) ≤ b.numerator / b.denominator := by positivity
  have hcount : shownCount (exactValue x) = roundHalfEven (b.numerator * 10000) b.denominator := by
    have habs : |exactValue x| * 10000 = ((b.numerator * 10000 : ℕ) : ℚ) / b.denominator := by
      rw [hvalue, Binary.value, abs_mul, abs_of_nonneg hsize]
      push_cast
      split <;> simp <;> ring
    rw [shownCount, habs, roundEven_div _ hpos, Int.natAbs_natCast]
  rw [hcount]
  -- The sign is that of the value, unless nothing is left to have a sign.
  rw [tenThousandths, tenThousandths]
  congr 3
  by_cases hzero : roundHalfEven (b.numerator * 10000) b.denominator = 0
  · rw [hzero, bne_self_eq_false, Bool.and_false, Bool.and_false]
  · have hsize_pos : (0 : ℚ) < b.numerator / b.denominator := by
      have hnumerator : b.numerator ≠ 0 := by
        intro hnone
        apply hzero
        rw [hnone, Nat.zero_mul]
        simp [roundHalfEven, hpos]
      have hnumerator_pos : 0 < b.numerator := Nat.pos_of_ne_zero hnumerator
      positivity
    rw [hvalue, Binary.value]
    cases b.negative with
    | false => simp [hsize]
    | true => simp [hsize_pos]

/-- What is shown of a finite double is a canonical decimal of the rounded value. -/
theorem exists_canonical {x : Float} (h : x.isFinite) :
    ∃ d : CanonicalDecimal,
      (displayNumber x).toList = d.chars ∧ d.value = shownValue (exactValue x) := by
  rw [displayNumber_eq h, shownValue_eq]
  generalize exactValue x = q
  -- Only the number of ten-thousandths and the sign matter, and a zero has none.
  obtain ⟨d, hnegative, hcount⟩ := CanonicalDecimal.exists_of_count
    (decide (q < 0) && shownCount q != 0) (shownCount q) (by simp)
  refine ⟨d, ?_, ?_⟩
  · rw [CanonicalDecimal.chars_eq, hnegative, hcount]
    simp [tenThousandths]
  · rw [CanonicalDecimal.value_eq, hnegative, hcount]
    by_cases hzero : shownCount q = 0
    · simp [hzero]
    · simp [hzero]

/-! ## As the zeros at the end are dropped -/

/-- A number with four places, of which the last may be zeros; a number below zero has a minus, even
if nothing but zeros is left of it. -/
def fixedPlaces (q : ℚ) : List Char :=
  (if q < 0 then ['-'] else []) ++ Nat.toDigits 10 (shownCount q / 10000)
    ++ '.' :: fourDigits (shownCount q % 10000)

/-- A text without the zeros at its end, and then without the points. -/
def dropZeros (text : List Char) : List Char :=
  (text.rdropWhile (· == '0')).rdropWhile (· == '.')

/-- The zeros at the end of the places are dropped, and with the last place the point, but no zero
in front of the point. -/
theorem dropZeros_eq (d : UnsignedDecimal) (front : List Char)
    (hlast : d.fraction.getLast? ≠ some '0') (k : ℕ) :
    dropZeros (front ++ d.whole ++ '.' :: (d.fraction ++ List.replicate k '0'))
      = front ++ d.chars := by
  have hpoint : ∀ digits : List Char, digits ≠ [] → (∀ c ∈ digits, c.isDigit) →
      ∀ before : List Char, (before ++ digits).getLast? ≠ some '.' := by
    intro digits hne hdigits before hpoint
    rw [List.getLast?_append_of_ne_nil _ hne] at hpoint
    exact absurd (hdigits '.' (List.mem_of_getLast? hpoint)) (by decide)
  rw [dropZeros, UnsignedDecimal.chars]
  by_cases hfraction : d.fraction = []
  · -- The zeros end at the point, and the point at the digits in front of it.
    have hsplit : front ++ d.whole ++ '.' :: (d.fraction ++ List.replicate k '0')
        = (front ++ d.whole ++ ['.']) ++ List.replicate k '0' := by simp [hfraction]
    have hpoint' :=
      rdropWhile_append_replicate (hpoint d.whole d.whole_ne_nil d.whole_isDigit front) 1
    rw [hsplit, rdropWhile_append_replicate (by simp), ← List.replicate_one, hpoint', hfraction]
    simp
  · have hsplit : front ++ d.whole ++ '.' :: (d.fraction ++ List.replicate k '0')
        = (front ++ d.whole ++ ['.'] ++ d.fraction) ++ List.replicate k '0' := by simp
    have hlast' : (front ++ d.whole ++ ['.'] ++ d.fraction).getLast? ≠ some '0' := by
      rwa [List.getLast?_append_of_ne_nil _ hfraction]
    have hpoint' := rdropWhile_append_replicate
      (hpoint d.fraction hfraction d.fraction_isDigit (front ++ d.whole ++ ['.'])) 0
    rw [List.replicate_zero, List.append_nil] at hpoint'
    rw [hsplit, rdropWhile_append_replicate hlast', hpoint']
    simp [hfraction]

/-- Only zero is written as a zero alone. -/
theorem CanonicalDecimal.count_eq_zero_of_chars {d : CanonicalDecimal}
    (h : d.toUnsignedDecimal.chars = ['0']) :
    d.count = 0 := by
  rw [UnsignedDecimal.chars, List.append_eq_singleton_iff] at h
  rw [count_eq_zero_iff]
  rcases h with ⟨hwhole, -⟩ | ⟨hwhole, hfraction⟩
  · exact absurd hwhole d.whole_ne_nil
  · refine ⟨hwhole, ?_⟩
    split at hfraction
    · next hempty => exact List.isEmpty_iff.mp hempty
    · cases hfraction

/-- The four places of a number lose the zeros at the end and the point, and then zero its minus. -/
theorem tenThousandths_eq_dropZeros (q : ℚ) :
    tenThousandths (decide (q < 0)) (shownCount q)
      = if dropZeros (fixedPlaces q) = ['-', '0'] then ['0'] else dropZeros (fixedPlaces q) := by
  obtain ⟨d, -, hcount⟩ := CanonicalDecimal.exists_of_count false (shownCount q) (by simp)
  have hdropped : dropZeros (fixedPlaces q)
      = (if q < 0 then ['-'] else []) ++ d.toUnsignedDecimal.chars := by
    rw [fixedPlaces, ← hcount, ← d.whole_eq, ← d.places_eq]
    exact dropZeros_eq d.toUnsignedDecimal _ d.getLast?_fraction_ne _
  rw [hdropped, tenThousandths, List.append_assoc, ← hcount, ← d.toUnsignedDecimal_chars]
  by_cases hnegative : q < 0
  · by_cases hzero : d.count = 0
    · have hchars : d.toUnsignedDecimal.chars = ['0'] := by
        rw [d.toUnsignedDecimal_chars, hzero]
        rfl
      simp [hnegative, hzero, hchars]
    · have hchars : d.toUnsignedDecimal.chars ≠ ['0'] :=
        fun h => hzero (CanonicalDecimal.count_eq_zero_of_chars h)
      simp [hnegative, hzero, hchars]
  · -- Without a minus the text begins with a digit.
    obtain ⟨c, rest, hchars, hdigit⟩ := d.exists_digit
    have hne : d.toUnsignedDecimal.chars ≠ ['-', '0'] := by
      intro h
      rw [hchars, List.cons.injEq] at h
      rw [h.1] at hdigit
      cases hdigit
    simp [hnegative, hne]

/-- What is shown of a finite double is the canonical decimal of the rounded value: of the double
itself if it is whole, and otherwise of the nearest number with four places, where of two equally
near ones the last place is even. No other canonical decimal stands for this number. So two doubles
are shown alike if and only if they are rounded to the same number. The same text is left of the
four places when the zeros at the end are dropped, then the point, and then the minus of a zero. -/
theorem displayNumber_canonical :
    (∀ x : Float, x.isFinite → ∃ d : CanonicalDecimal,
      (displayNumber x).toList = d.chars ∧ d.value = shownValue (exactValue x) ∧
      ∀ d' : CanonicalDecimal, d'.value = shownValue (exactValue x) → d' = d) ∧
    (∀ x y : Float, x.isFinite → y.isFinite →
      (displayNumber x = displayNumber y ↔ shownValue (exactValue x) = shownValue (exactValue y))) ∧
    ∀ x : Float, x.isFinite →
      (displayNumber x).toList
        = if dropZeros (fixedPlaces (exactValue x)) = ['-', '0'] then ['0']
          else dropZeros (fixedPlaces (exactValue x)) := by
  refine ⟨?_, ?_, ?_⟩
  · intro x hx
    obtain ⟨d, hchars, hvalue⟩ := exists_canonical hx
    exact ⟨d, hchars, hvalue, fun d' hd' => CanonicalDecimal.eq_of_value_eq (hd'.trans hvalue.symm)⟩
  · intro x y hx hy
    obtain ⟨d, hchars, hvalue⟩ := exists_canonical hx
    obtain ⟨e, hchars', hvalue'⟩ := exists_canonical hy
    -- Both sides are read off the canonical forms, which their texts determine and their values as
    -- well.
    rw [← hvalue, ← hvalue', ← String.toList_inj, hchars, hchars']
    constructor
    · intro h
      rw [CanonicalDecimal.eq_of_chars_eq h]
    · intro h
      rw [CanonicalDecimal.eq_of_value_eq h]
  · intro x hx
    rw [displayNumber_eq hx]
    exact tenThousandths_eq_dropZeros _

/-- A number a little above a hundred is shown like a hundred, with both zeros. A number a little
below zero is shown without a minus. A thirty-second is halfway between two numbers with four
places, and the even one is shown. -/
theorem displayNumber_canonical_at_edges :
    let above : Float := 100.00001
    let below : Float := -0.00001
    let half : Float := 0.03125
    (above.isFinite ∧ below.isFinite ∧ half.isFinite) ∧ displayNumber above = displayNumber 100 ∧
      (∃ d : CanonicalDecimal, (displayNumber above).toList = d.chars ∧ d.value = 100) ∧
      (∃ d : CanonicalDecimal, (displayNumber half).toList = d.chars ∧ d.value = 312 / 10000) ∧
      fixedPlaces (exactValue below) = "-0.0000".toList ∧ displayNumber below = "0" := by
  intro above below half
  obtain ⟨hcanonical, halike, hdropped⟩ := displayNumber_canonical
  have habove : above.isFinite := by decide +kernel
  have hbelow : below.isFinite := by decide +kernel
  have hhalf : half.isFinite := by decide +kernel
  have habove_value : shownValue (exactValue above) = 100 := by decide +kernel
  have hhalf_value : shownValue (exactValue half) = 312 / 10000 := by decide +kernel
  have hplaces : fixedPlaces (exactValue below) = "-0.0000".toList := by decide +kernel
  refine ⟨⟨habove, hbelow, hhalf⟩,
    (halike above 100 habove (by decide +kernel)).mpr (by decide +kernel), ?_, ?_, hplaces, ?_⟩
  · obtain ⟨d, hchars, hvalue, -⟩ := hcanonical above habove
    exact ⟨d, hchars, hvalue.trans habove_value⟩
  · obtain ⟨d, hchars, hvalue, -⟩ := hcanonical half hhalf
    exact ⟨d, hchars, hvalue.trans hhalf_value⟩
  · -- The sign of a rounded zero is dropped with its zeros.
    apply String.toList_inj.mp
    rw [hdropped below hbelow, hplaces]
    decide

end FormulaTable
