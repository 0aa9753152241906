import FormulaTable.Proofs.Number.ReadBack

/-!
# `FormulaTable.Proofs.Number.Count`: doubles that count

A double holds every whole number below `2 ^ 53`. So numbers of things that are as small as that may
be added as doubles, in any order, and nothing is lost: `ofNat_add_ofNat`, and
`sameNumber_total_ofNat` for sums of any length.

`ofCount` is the one form that such a number has as a double: its highest bit is moved to the
highest place of the significand. What is left to see of an operation is that it comes to this form.
Two roundings do the work. Where the significand is too short, it is filled up with zeros
(`round_whole`); where it is too long, zeros are all that is cut off (`roundWithAccuracy_whole`).
-/

set_option autoImplicit false

namespace FormulaTable

open Float.Model (Format UnpackedFloat totalExponent)
open Float.Model.UnpackedFloat

/-! ## The form of a count -/

/-- The significand of a positive count: its highest bit is moved to the highest of fifty-three
places. -/
def countSignificand (n : Nat) : Nat :=
  n * 2 ^ (52 - n.log2)

/-- The significand of a count other than zero is not zero. -/
theorem countSignificand_pos {n : Nat} (hn : 0 < n) : 0 < countSignificand n :=
  Nat.mul_pos hn (Nat.two_pow_pos _)

/-- The unpacked form of a count. -/
def ofCount (n : Nat) : UnpackedFloat :=
  if hn : 0 < n then .finite .positive (countSignificand n) (n.log2 - 52) (countSignificand_pos hn)
  else .zero .positive

/-- Nothing is counted by the positive zero. -/
theorem ofCount_zero : ofCount 0 = .zero .positive :=
  rfl

/-- Any other count has a significand of 53 bits and the exponent that goes with it. -/
theorem ofCount_of_pos {n : Nat} (hn : 0 < n) :
    ofCount n = .finite .positive (countSignificand n) (n.log2 - 52) (countSignificand_pos hn) :=
  dif_pos hn

section
variable {n : Nat} (hn : 0 < n) (hlt : n < 2 ^ 53)
include hn hlt

/-- A count below the limit has at most 53 bits. -/
theorem log2_le_of_lt : n.log2 ≤ 52 := by
  have hlog : n.log2 < 53 := (Nat.log2_lt hn.ne').mpr hlt
  omega

/-- The significand of a count has 53 bits. -/
theorem log2_countSignificand : (countSignificand n).log2 = 52 := by
  have hle := log2_le_of_lt hn hlt
  rw [countSignificand, log2_mul_two_pow hn.ne']
  omega

/-- A number of 53 bits lies between two powers of two. -/
theorem countSignificand_bounds :
    2 ^ 52 ≤ countSignificand n ∧ countSignificand n < 2 ^ 53 :=
  (Nat.log2_eq_iff (countSignificand_pos hn).ne').mp (log2_countSignificand hn hlt)

omit hlt in
/-- The highest bit of a whole number decides on the exponent, however many zeros are written
behind. -/
theorem targetExponent_whole (k : Nat) :
    Format.binary64.targetExponent (totalExponent (n * 2 ^ k) (-k)) = n.log2 - 52 := by
  rw [totalExponent, log2_mul_two_pow hn.ne', Format.targetExponent]
  show max (((n.log2 + k : Nat) : Int) + 1 + -k - 53) (-1074) = _
  omega

end

/-! ## Rounding to this form -/

/-- Nothing is lost where the bits that are cut off are zeros. -/
theorem shiftRight_exact (significand k : Nat) :
    (⟨significand * 2 ^ k, false, false⟩ : ExtendedMantissa) >>> k
      = ⟨significand, false, false⟩ := by
  show k.repeat ExtendedMantissa.shiftRightOne _ = _
  induction k generalizing significand with
  | zero => simp [Nat.repeat]
  | succ k ih =>
      have hsplit : significand * 2 ^ (k + 1) = significand * 2 * 2 ^ k := by
        rw [Nat.pow_succ, Nat.mul_assoc, Nat.mul_comm (2 ^ k)]
      rw [Nat.repeat, hsplit, ih]
      simp [ExtendedMantissa.shiftRightOne]

/-- Cutting off zeros until the target is reached. -/
theorem shiftToExponent_exact (significand k : Nat) {exponent target : Int}
    (h : exponent + k = target) :
    shiftToExponent (significand * 2 ^ k) exponent .exact target
      = (⟨significand, false, false⟩, target) := by
  have hamount : (target - exponent).toNat = k := by omega
  rw [shiftToExponent, hamount, h]
  exact congrArg (·, target) (shiftRight_exact significand k)

section
variable {n : Nat} (hn : 0 < n) (hlt : n < 2 ^ 53)
include hn hlt

/-- A count that is written with enough zeros behind it, or more than that, is rounded to its
form. -/
theorem roundWithAccuracy_whole {k : Nat} (hk : 52 - n.log2 ≤ k) :
    roundWithAccuracy .binary64 .positive (n * 2 ^ k) (-k) .exact = ofCount n := by
  have hle := log2_le_of_lt hn hlt
  obtain ⟨extra, rfl⟩ := Nat.exists_eq_add_of_le hk
  have hwritten : n * 2 ^ (52 - n.log2 + extra) = countSignificand n * 2 ^ extra := by
    rw [countSignificand, Nat.pow_add, Nat.mul_assoc]
  -- The zeros that are too many are cut off.
  have hfirst : shiftToTargetExponent .binary64 (n * 2 ^ (52 - n.log2 + extra))
      (-(52 - n.log2 + extra : Nat)) .exact
      = (⟨countSignificand n, false, false⟩, (n.log2 : Int) - 52) := by
    rw [shiftToTargetExponent, targetExponent_whole hn, hwritten]
    apply shiftToExponent_exact
    omega
  -- What is left has fifty-three bits, and stays as it is.
  have hsecond : shiftToTargetExponent .binary64 (countSignificand n) ((n.log2 : Int) - 52) .exact
      = (⟨countSignificand n, false, false⟩, (n.log2 : Int) - 52) := by
    have htarget : Format.binary64.targetExponent (totalExponent (countSignificand n)
        ((n.log2 : Int) - 52)) = n.log2 - 52 := by
      have hexponent : (n.log2 : Int) - 52 = -(52 - n.log2 : Nat) := by omega
      rw [hexponent, countSignificand, targetExponent_whole hn]
      exact hexponent
    have hstay := shiftToExponent_exact (countSignificand n) 0
      (Int.add_zero ((n.log2 : Int) - 52))
    rw [Nat.pow_zero, Nat.mul_one] at hstay
    rw [shiftToTargetExponent, htarget, hstay]
  have hround : ExtendedMantissa.roundedMantissa ⟨countSignificand n, false, false⟩
      = countSignificand n := rfl
  simp only [roundWithAccuracy, hfirst, hround, hsecond]
  rw [dif_neg (countSignificand_pos hn).ne', ofCount_of_pos hn]

/-- A count is rounded to its form, however many zeros are written behind it. -/
theorem round_whole (k : Nat) :
    UnpackedFloat.round .binary64 .positive (n * 2 ^ k) (-k) = ofCount n := by
  have hle := log2_le_of_lt hn hlt
  -- Zeros are put behind it, unless there are enough.
  let fill := (-(k : Int) - ((n.log2 : Int) - 52)).toNat
  have hdecrease : decreaseExponent (n * 2 ^ k) (-k) ((n.log2 : Int) - 52)
      = (n * 2 ^ (k + fill), (-(k + fill : Nat) : Int)) := by
    have hexponent : -(k : Int) - fill = -(k + fill : Nat) := by omega
    show ((n * 2 ^ k) <<< fill, -(k : Int) - fill) = _
    rw [Nat.shiftLeft_eq, Nat.mul_assoc, ← Nat.pow_add, hexponent]
  have henough : 52 - n.log2 ≤ k + fill := by omega
  simp only [UnpackedFloat.round, targetExponent_whole hn, hdecrease]
  exact roundWithAccuracy_whole hn hlt henough

end

/-! ## Packing -/

/-- The sign is unpacked as it was packed. -/
theorem unpackSign_packComponents (sign : Sign) (exponent : BitVec 11) (fraction : BitVec 52) :
    unpackSign (packComponents .binary64 sign exponent fraction) = sign.toBitVec := by
  show (sign.toBitVec ++ exponent ++ fraction).extractLsb' 63 1 = sign.toBitVec
  rw [BitVec.extractLsb'_append_eq_of_le (by decide),
    BitVec.extractLsb'_append_eq_of_le (by decide)]
  cases sign <;> rfl

/-- A double with the exponent of a normal number has its significand back, with the highest bit
that is left out when it is packed. -/
theorem unpack_packComponents_normal {exponent significand : Nat}
    (hexponent : 0 < exponent ∧ exponent < 2047)
    (hsignificand : 2 ^ 52 ≤ significand ∧ significand < 2 ^ 53) :
    UnpackedFloat.unpack .binary64 (packComponents .binary64 .positive (BitVec.ofNat 11 exponent)
        (BitVec.ofNat 52 significand))
      = .finite .positive significand ((exponent : Int) - 1075) (by omega) := by
  have hfield : (BitVec.ofNat 11 exponent).toNat = exponent := by
    rw [BitVec.toNat_ofNat]
    omega
  -- The exponents of infinity and of the smallest doubles are set apart.
  have hones : BitVec.ofNat 11 exponent ≠ -1#11 := by
    intro h
    have hvalue := congrArg BitVec.toNat h
    rw [hfield] at hvalue
    have hmax : (-1#11).toNat = 2047 := rfl
    omega
  have hzeros : BitVec.ofNat 11 exponent ≠ 0#11 := by
    intro h
    have hvalue := congrArg BitVec.toNat h
    rw [hfield] at hvalue
    have hmin : (0#11).toNat = 0 := rfl
    omega
  have hfraction : (1#1 ++ BitVec.ofNat 52 significand).toNat = significand := by
    rw [BitVec.toNat_append, BitVec.toNat_ofNat, Nat.shiftLeft_eq, Nat.or_comm]
    show significand % 2 ^ 52 ||| 2 ^ 52 = _
    rw [Nat.or_two_pow_eq_add_of_lt (Nat.mod_lt _ (Nat.two_pow_pos 52))]
    omega
  have hbias : (Format.binary64.exponentBias : Int) + (52 : Nat) = 1075 := rfl
  rw [UnpackedFloat.unpack]
  simp only [unpackExponent_packComponents, unpackMantissa_packComponents,
    unpackSign_packComponents, if_neg hones, if_neg hzeros, hfield, hfraction, hbias]
  rfl

/-- A positive count is packed as a normal number. -/
theorem pack_ofCount {n : Nat} (hn : 0 < n) (hlt : n < 2 ^ 53) :
    UnpackedFloat.pack .binary64 (ofCount n)
      = packComponents .binary64 .positive (BitVec.ofNat 11 (n.log2 + 1023))
        (BitVec.ofNat 52 (countSignificand n)) := by
  have hle := log2_le_of_lt hn hlt
  -- The exponent field is the logarithm of the count with its bias, far from both ends.
  have hfield : ((n.log2 : Int) - 52 + Format.binary64.exponentBias
      + Format.binary64.mantissaBitsWithoutImplicit).toNat = n.log2 + 1023 := by
    show ((n.log2 : Int) - 52 + 1023 + 52).toNat = n.log2 + 1023
    omega
  have hfinite : ¬ 2 ^ Format.binary64.exponentBits ≤ n.log2 + 1023 + 1 := by
    show ¬ 2048 ≤ n.log2 + 1023 + 1
    omega
  have hnormal : 52 + 1 = Format.binary64.mantissaBits := rfl
  rw [ofCount_of_pos hn]
  simp only [UnpackedFloat.pack, hfield, if_neg hfinite, log2_countSignificand hn hlt,
    if_pos hnormal]

/-- A count is unpacked as it was packed. -/
theorem unpack_pack_ofCount {n : Nat} (hlt : n < 2 ^ 53) :
    (Float.Model.pack (ofCount n)).unpack = ofCount n := by
  show UnpackedFloat.unpack .binary64 (UnpackedFloat.pack .binary64 (ofCount n)) = ofCount n
  rcases Nat.eq_zero_or_pos n with rfl | hn
  · rfl
  · have hle := log2_le_of_lt hn hlt
    have hexponent : 0 < n.log2 + 1023 ∧ n.log2 + 1023 < 2047 := by omega
    have hvalue : ((n.log2 + 1023 : Nat) : Int) - 1075 = n.log2 - 52 := by omega
    rw [pack_ofCount hn hlt,
      unpack_packComponents_normal hexponent (countSignificand_bounds hn hlt)]
    simp only [hvalue, ofCount_of_pos hn]

/-! ## Counts as doubles -/

/-- Doubles are multiplied by unpacking them, multiplying and packing the product. -/
theorem mul_eq_pack (x y : Float) :
    x * y = .ofModel (.pack (UnpackedFloat.mul .binary64 x.toModel.unpack y.toModel.unpack)) :=
  rfl

/-- The double by which a count is multiplied when it is made into one. -/
theorem unpack_one : (Float.ofBits 0x3FF0000000000000).toModel.unpack
    = .finite .positive (2 ^ 52) (-52) (Nat.two_pow_pos 52) :=
  rfl

section
variable {n : Nat} (hlt : n < 2 ^ 53)
include hlt

/-- Among whole numbers, a count is rounded to its form. -/
theorem ofNat_eq_ofCount : UnpackedFloat.ofNat .binary64 n = ofCount n := by
  rcases Nat.eq_zero_or_pos n with rfl | hn
  · rfl
  · have hcompare : compare (n : Int) 0 = .gt := Int.compare_eq_gt.mpr (by omega)
    have hround := round_whole hn hlt 0
    rw [Nat.pow_zero, Nat.mul_one] at hround
    rw [UnpackedFloat.ofNat, UnpackedFloat.ofInt, UnpackedFloat.normalize, hcompare]
    exact hround

/-- A word below the limit becomes the double of its count. -/
theorem unpack_toFloat : n.toUInt64.toFloat.toModel.unpack = ofCount n := by
  have hword : n.toUInt64.toNat = n := by
    show n % 2 ^ 64 = n
    omega
  show (Float.Model.pack (UnpackedFloat.ofNat .binary64 n.toUInt64.toNat)).unpack = _
  rw [hword, ofNat_eq_ofCount hlt, unpack_pack_ofCount hlt]

/-- A count times one is the count. -/
theorem mul_one_ofCount :
    UnpackedFloat.mul .binary64 (ofCount n) (.finite .positive (2 ^ 52) (-52) (Nat.two_pow_pos 52))
      = ofCount n := by
  rcases Nat.eq_zero_or_pos n with rfl | hn
  · rfl
  · -- The product has fifty-two zeros more than the count.
    have hexponent : (n.log2 : Int) - 52 + -52 = -(52 - n.log2 + 52 : Nat) := by
      have hle := log2_le_of_lt hn hlt
      omega
    have hwhole := roundWithAccuracy_whole hn hlt (Nat.le_add_right (52 - n.log2) 52)
    rw [Nat.pow_add, ← Nat.mul_assoc, ← hexponent] at hwhole
    rw [ofCount_of_pos hn] at hwhole ⊢
    exact hwhole

/-- A count is made into the double with its form. -/
theorem ofNat_eq_pack : Float.ofNat n = .ofModel (.pack (ofCount n)) := by
  have hproduct : Float.ofNat n = n.toUInt64.toFloat * Float.ofBits 0x3FF0000000000000 := by
    show Float.ofScientific n false 0 = _
    rw [Float.ofScientific, dif_pos ⟨hlt, by decide⟩]
    rfl
  rw [hproduct, mul_eq_pack, unpack_toFloat hlt, unpack_one, mul_one_ofCount hlt]

/-- A number below the limit becomes the double of its count. -/
theorem unpack_ofNat : (Float.ofNat n).toModel.unpack = ofCount n := by
  rw [ofNat_eq_pack hlt]
  exact unpack_pack_ofCount hlt

end

/-! ## Sums of counts -/

/-- The forms of two counts add up to the form of their sum. -/
theorem add_ofCount {a b : Nat} (hlt : a + b < 2 ^ 53) :
    UnpackedFloat.add .binary64 (ofCount a) (ofCount b) = ofCount (a + b) := by
  rcases Nat.eq_zero_or_pos a with rfl | ha
  · rw [ofCount_zero, Nat.zero_add]
    rcases Nat.eq_zero_or_pos b with rfl | hb
    · rfl
    · rw [ofCount_of_pos hb]
      rfl
  rcases Nat.eq_zero_or_pos b with rfl | hb
  · rw [ofCount_zero, Nat.add_zero, ofCount_of_pos ha]
    rfl
  have hlea := log2_le_of_lt ha (by omega)
  have hleb := log2_le_of_lt hb (by omega)
  -- Both are written with the same number of zeros behind them, and then added.
  let k := 52 - min a.log2 b.log2
  have hsmaller : min ((a.log2 : Int) - 52) ((b.log2 : Int) - 52) = -(k : Int) := by omega
  have hwritten : ∀ {n : Nat}, n.log2 ≤ 52 → min a.log2 b.log2 ≤ n.log2 →
      (decreaseExponent (countSignificand n) ((n.log2 : Int) - 52) (-(k : Int))).1 = n * 2 ^ k := by
    intro n hle hmin
    have hzeros : 52 - n.log2 + ((n.log2 : Int) - 52 - -(k : Int)).toNat = k := by omega
    show countSignificand n <<< ((n.log2 : Int) - 52 - -(k : Int)).toNat = _
    rw [Nat.shiftLeft_eq, countSignificand, Nat.mul_assoc, ← Nat.pow_add, hzeros]
  have hsum : ((a * 2 ^ k : Nat) : Int) + ((b * 2 ^ k : Nat) : Int) = ((a + b) * 2 ^ k : Nat) := by
    rw [Nat.add_mul, Int.natCast_add]
  have hpos : 0 < (a + b) * 2 ^ k := Nat.mul_pos (by omega) (Nat.two_pow_pos k)
  have hcompare : compare (((a + b) * 2 ^ k : Nat) : Int) 0 = .gt :=
    Int.compare_eq_gt.mpr (by omega)
  rw [ofCount_of_pos ha, ofCount_of_pos hb]
  simp only [UnpackedFloat.add, hsmaller, hwritten hlea (Nat.min_le_left _ _),
    hwritten hleb (Nat.min_le_right _ _), Sign.apply, hsum, UnpackedFloat.normalize, hcompare,
    Int.toNat_natCast]
  exact round_whole (by omega) hlt k

/-- Counts may be added as doubles. -/
theorem ofNat_add_ofNat {a b : Nat} (hlt : a + b < 2 ^ 53) :
    Float.ofNat a + Float.ofNat b = Float.ofNat (a + b) := by
  rw [add_eq_pack, unpack_ofNat (by omega), unpack_ofNat (by omega), add_ofCount hlt,
    ofNat_eq_pack hlt]

/-- A sum of counts is the double of the whole count; the sum of none is a zero with a sign of its
own. -/
theorem sameNumber_total_ofNat {counts : List Nat} (hlt : counts.sum < 2 ^ 53) :
    SameNumber (Meaning.total (counts.map Float.ofNat)) (Float.ofNat counts.sum) := by
  -- From a count onwards, every sum so far is a count.
  have hgen : ∀ start : Nat, start + counts.sum < 2 ^ 53 →
      (counts.map Float.ofNat).foldl (· + ·) (Float.ofNat start)
        = Float.ofNat (start + counts.sum) := by
    clear hlt
    induction counts with
    | nil =>
        intro start _
        rfl
    | cons count counts ih =>
        intro start hlt
        rw [List.sum_cons, ← Nat.add_assoc] at hlt ⊢
        rw [List.map_cons, List.foldl_cons, ofNat_add_ofNat (by omega), ih _ hlt]
  have hzero : SameNumber (-0.0) (Float.ofNat 0) := by decide
  have hsum := Meaning.foldl_add_same hzero (counts.map Float.ofNat)
  rw [hgen 0 (by omega), Nat.zero_add] at hsum
  exact hsum

end FormulaTable
