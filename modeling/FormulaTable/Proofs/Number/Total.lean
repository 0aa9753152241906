import FormulaTable.Meaning.Arithmetic
import Mathlib

/-!
# `FormulaTable.Proofs.Number.Total`: sums, and the zeros in them

A sum of doubles depends on the order of its terms, so little can be rearranged in it. Zeros are an
exception: they may be left out or put in anywhere. A zero has a sign, though, and a sum of zeros
may come out with either. `SameNumber` takes doubles for the same that differ at most in the sign of
a zero.

* `SameNumber.add`: sums of the same numbers are the same.
* `sameNumber_total_flatMap`: a sum stays the same if zeros among its terms are left out and the
  other terms are replaced by the same numbers.
* `sameNumber_total_append`: it stays the same without the zeros at its end.
-/

set_option autoImplicit false

namespace FormulaTable

open Float.Model (UnpackedFloat)

/-- Two doubles are the same number: equal, or zeros with any signs. -/
def SameNumber (x y : Float) : Prop :=
  x = y ∨ ((x == 0) = true ∧ (y == 0) = true)

instance (x y : Float) : Decidable (SameNumber x y) :=
  inferInstanceAs (Decidable (_ ∨ _))

namespace SameNumber

variable {x y z : Float}

theorem refl (x : Float) : SameNumber x x :=
  Or.inl rfl

theorem symm (h : SameNumber x y) : SameNumber y x := by
  rcases h with rfl | ⟨hx, hy⟩
  · exact refl x
  · exact Or.inr ⟨hy, hx⟩

theorem trans (h : SameNumber x y) (h' : SameNumber y z) : SameNumber x z := by
  rcases h with rfl | ⟨hx, hy⟩
  · exact h'
  · rcases h' with rfl | ⟨-, hz⟩
    · exact Or.inr ⟨hx, hy⟩
    · exact Or.inr ⟨hx, hz⟩

end SameNumber

/-! ## Adding a zero -/

/-- A double is what its unpacked form is packed to. -/
theorem pack_unpack_toModel (x : Float) :
    Float.ofModel (Float.Model.pack x.toModel.unpack) = x := by
  obtain ⟨bits, hvalid⟩ := x
  simp only [Float.Model.pack, Float.Model.unpack, UnpackedFloat.pack_unpack_of_valid hvalid]

/-- What equals zero is a zero with some sign. -/
theorem beq_zero_iff {x : Float} : (x == 0) = true ↔ ∃ sign, x.toModel.unpack = .zero sign := by
  have hcompare : (x == 0)
      = (UnpackedFloat.compare x.toModel.unpack (.zero .positive) == some .eq) := rfl
  rw [hcompare]
  constructor
  · intro h
    -- A comparison with zero is decided by the kind of the number; both zeros are equal to it.
    cases hx : x.toModel.unpack with
    | zero sign => exact ⟨sign, rfl⟩
    | notANumber =>
        rw [hx] at h
        cases h
    | infinity sign =>
        rw [hx] at h
        cases sign <;> cases h
    | finite sign mantissa exponent hpos =>
        rw [hx] at h
        cases sign <;> cases h
  · rintro ⟨sign, hx⟩
    rw [hx]
    cases sign <;> rfl

/-- Adding two doubles adds their unpacked forms. -/
theorem add_eq_pack (x y : Float) :
    x + y = .ofModel (.pack (UnpackedFloat.add .binary64 x.toModel.unpack y.toModel.unpack)) :=
  rfl

/-- Next to anything but a zero, a zero does not count. -/
theorem add_zero_unpacked {u : UnpackedFloat} (hu : ∀ sign, u ≠ .zero sign)
    (sign : UnpackedFloat.Sign) :
    UnpackedFloat.add .binary64 u (.zero sign) = u ∧
      UnpackedFloat.add .binary64 (.zero sign) u = u := by
  cases u with
  | zero sign' => exact absurd rfl (hu sign')
  | notANumber => exact ⟨rfl, rfl⟩
  | infinity sign' => exact ⟨rfl, rfl⟩
  | finite sign' mantissa exponent hpos => exact ⟨rfl, rfl⟩

/-- Adding a zero on either side leaves every number as it is, except for the sign of a zero. -/
theorem sameNumber_add_zero (x : Float) {zero : Float} (h : (zero == 0) = true) :
    SameNumber (x + zero) x ∧ SameNumber (zero + x) x := by
  obtain ⟨sign, hzero⟩ := beq_zero_iff.mp h
  by_cases hx : (x == 0) = true
  · -- Two zeros add up to a zero, whose sign depends on theirs.
    obtain ⟨sign', hsign'⟩ := beq_zero_iff.mp hx
    refine ⟨Or.inr ⟨?_, hx⟩, Or.inr ⟨?_, hx⟩⟩
    · rw [add_eq_pack, hsign', hzero]
      cases sign <;> cases sign' <;> rfl
    · rw [add_eq_pack, hsign', hzero]
      cases sign <;> cases sign' <;> rfl
  · have hother : ∀ sign', x.toModel.unpack ≠ .zero sign' := by
      intro sign' hsign'
      exact hx (beq_zero_iff.mpr ⟨sign', hsign'⟩)
    obtain ⟨hright, hleft⟩ := add_zero_unpacked hother sign
    constructor
    · left
      rw [add_eq_pack, hzero, hright, pack_unpack_toModel]
    · left
      rw [add_eq_pack, hzero, hleft, pack_unpack_toModel]

/-- Sums of the same numbers are the same number. -/
theorem SameNumber.add {x x' y y' : Float} (hx : SameNumber x x') (hy : SameNumber y y') :
    SameNumber (x + y) (x' + y') := by
  have hright : SameNumber (x + y) (x + y') := by
    rcases hy with rfl | ⟨hzero, hzero'⟩
    · exact .refl _
    · exact (sameNumber_add_zero x hzero).1.trans (sameNumber_add_zero x hzero').1.symm
  have hleft : SameNumber (x + y') (x' + y') := by
    rcases hx with rfl | ⟨hzero, hzero'⟩
    · exact .refl _
    · exact (sameNumber_add_zero y' hzero).2.trans (sameNumber_add_zero y' hzero').2.symm
  exact hright.trans hleft

/-! ## Sums -/

namespace Meaning

/-- Adding on from the same number comes to the same number. -/
theorem foldl_add_same {start start' : Float} (h : SameNumber start start') :
    ∀ xs : List Float, SameNumber (xs.foldl (· + ·) start) (xs.foldl (· + ·) start') := by
  intro xs
  induction xs generalizing start start' with
  | nil => exact h
  | cons x xs ih =>
      simp only [List.foldl_cons]
      exact ih (h.add (.refl x))

/-- Zeros at the end of a sum do not count. -/
theorem sameNumber_total_append (xs : List Float) :
    ∀ zeros : List Float, (∀ zero ∈ zeros, (zero == 0) = true) →
      SameNumber (total (xs ++ zeros)) (total xs) := by
  intro zeros hzeros
  rw [total, total, List.foldl_append]
  -- The sum so far is carried along, whatever it is.
  have hgen : ∀ sum : Float, SameNumber (zeros.foldl (· + ·) sum) sum := by
    induction zeros with
    | nil => exact fun sum => .refl sum
    | cons zero zeros ih =>
        intro sum
        rw [List.forall_mem_cons] at hzeros
        exact (ih hzeros.2 (sum + zero)).trans (sameNumber_add_zero sum hzeros.1).1
  exact hgen _

/-- A sum may be taken over what the items give, where an item gives the same number or, in place of
a zero, nothing. -/
theorem sameNumber_total_flatMap {α : Type} {give : α → List Float} {number : α → Float}
    {items : List α}
    (h : ∀ item ∈ items, (give item = [] ∧ (number item == 0) = true) ∨
      ∃ x, give item = [x] ∧ SameNumber x (number item)) :
    SameNumber (total (items.flatMap give)) (total (items.map number)) := by
  rw [total, total]
  generalize -0.0 = start
  induction items generalizing start with
  | nil => exact .refl start
  | cons item items ih =>
      rw [List.forall_mem_cons] at h
      rw [List.flatMap_cons, List.foldl_append, List.map_cons, List.foldl_cons]
      -- The rest is added to the sum so far, which is the same number on both sides.
      refine (foldl_add_same ?_ _).trans (ih h.2 _)
      rcases h.1 with ⟨hnothing, hzero⟩ | ⟨x, hx, hsame⟩
      · rw [hnothing, List.foldl_nil]
        exact (sameNumber_add_zero start hzero).1.symm
      · rw [hx, List.foldl_cons, List.foldl_nil]
        exact (SameNumber.refl start).add hsame

end Meaning
end FormulaTable
