import FormulaTable.Number.Decimal
import Mathlib

/-!
# `FormulaTable.Proofs.Number.Finite`: numbers that are read are finite

A double is finite unless the field of its exponent holds nothing but ones. `isFinite_ofBits` says
so for doubles that are made from their bits. `parseNumber` makes doubles in this way and refuses
those beyond the largest finite one, so `isFinite_of_parseNumber` holds of every text it reads.
-/

set_option autoImplicit false

namespace FormulaTable

open Float.Model (Format UnpackedFloat)
open Float.Model.UnpackedFloat (unpackExponent)

/-! ## Doubles from bits -/

/-- Packed bits stand for a finite double unless the exponent is all ones. -/
theorem isFinite_unpack {bits : BitVec Format.binary64.numBits} (h : unpackExponent bits ≠ -1#_) :
    (UnpackedFloat.unpack .binary64 bits).isFinite := by
  rw [UnpackedFloat.unpack, if_neg h]
  split
  · split <;> rfl
  · rfl

/-- A double made from its bits is finite unless its exponent is all ones. -/
theorem isFinite_ofBits {bits : UInt64} (h : bits.toNat / leadingOne % 2048 ≠ 2047) :
    (Float.ofBits bits).isFinite := by
  let packed : BitVec Format.binary64.numBits := bits.toBitVec
  have hexponent : unpackExponent packed ≠ -1#_ := by
    intro hones
    have hfield := congrArg BitVec.toNat hones
    exact h (by simpa [packed, unpackExponent, Nat.shiftRight_eq_div_pow, leadingOne] using hfield)
  -- The bits are no undefined number, so the double is packed in just these bits.
  have hnumber : ¬ UnpackedFloat.isNaNBits packed := by
    rw [UnpackedFloat.isNaNBits, decide_eq_true_eq]
    exact fun hnan => hexponent hnan.1
  have hsame : UnpackedFloat.pack .binary64 (UnpackedFloat.unpack .binary64 packed) = packed := by
    rw [UnpackedFloat.pack_unpack, if_neg hnumber]
  show (UnpackedFloat.unpack .binary64
    (UnpackedFloat.pack .binary64 (UnpackedFloat.unpack .binary64 packed))).isFinite
  rw [hsame]
  exact isFinite_unpack hexponent

/-! ## Numbers that are read -/

/-- The double nearest to a fraction is finite, if there is one. -/
theorem isFinite_of_nearest? {negative : Bool} {numerator denominator : Nat} {x : Float}
    (h : nearest? negative numerator denominator = some x) : x.isFinite := by
  simp only [nearest?] at h
  split at h
  · next hlt =>
      obtain rfl := Option.some.inj h
      -- The bits are below those of infinity, and the sign has no part in the exponent.
      apply isFinite_ofBits
      rw [infinityBits, leadingOne] at hlt
      cases negative with
      | false =>
          simp only [Bool.false_eq_true, if_false, UInt64.toNat_ofNat', leadingOne]
          omega
      | true =>
          simp only [if_true, UInt64.toNat_ofNat', leadingOne, signBit]
          omega
  · simp at h

/-- A decimal number is read as a finite one, or not at all. -/
theorem Decimal.isFinite_of_nearest? {d : Decimal} {x : Float} (h : d.nearest? = some x) :
    x.isFinite := by
  rw [Decimal.nearest?] at h
  split at h
  · exact FormulaTable.isFinite_of_nearest? h
  split at h
  · simp at h
  split at h
  · exact FormulaTable.isFinite_of_nearest? h
  · exact FormulaTable.isFinite_of_nearest? h

/-- A number that a text spells is finite. -/
theorem isFinite_of_parseNumber {text : List Char} {x : Float} (h : parseNumber text = some x) :
    x.isFinite := by
  rw [parseNumber, Option.bind_eq_bind, Option.bind_eq_some_iff] at h
  obtain ⟨d, -, hd⟩ := h
  exact Decimal.isFinite_of_nearest? hd

end FormulaTable
