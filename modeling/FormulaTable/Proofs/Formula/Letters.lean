import FormulaTable.Proofs.Address.Grammar
import Mathlib

/-!
# `FormulaTable.Proofs.Formula.Letters`: capital and small letters

`SameLetters` says that two texts differ at most in the case of their ASCII letters. Such texts are
the same address if they are one (`CellRef.ofChars?_of_sameLetters`), because a letter counts the
same in either case, and names that differ in nothing else are the name of the same function
(`Builtin.ofName?_of_sameLetters`), because functions are looked up in capitals.
-/

set_option autoImplicit false

namespace FormulaTable

/-- The texts differ at most in the case of their ASCII letters. -/
def SameLetters (a b : List Char) : Prop :=
  a.map Char.toUpper = b.map Char.toUpper

instance (a b : List Char) : Decidable (SameLetters a b) :=
  inferInstanceAs (Decidable (_ = _))

/-! ## Characters -/

section
variable {c d : Char} (h : c.toUpper = d.toUpper)
include h

/-- Characters with the same capital are both letters, or neither is. -/
theorem isAlpha_eq_of_toUpper_eq : c.isAlpha = d.isAlpha := by
  rw [← Char.isAlpha_toUpper_eq_isAlpha c, h, Char.isAlpha_toUpper_eq_isAlpha]

/-- What is no letter has only one case. -/
theorem eq_of_toUpper_eq (hc : c.isAlpha = false) : c = d := by
  have hd : d.isAlpha = false := (isAlpha_eq_of_toUpper_eq h).symm.trans hc
  rw [Char.isAlpha, Bool.or_eq_false_iff] at hc hd
  rwa [Char.toUpper_eq_of_not_isLower (by simp [hc.2]),
    Char.toUpper_eq_of_not_isLower (by simp [hd.2])] at h

/-- If one of them is a letter or a digit, so is the other. -/
theorem isAlphanum_of_toUpper_eq (hc : c.isAlphanum) : d.isAlphanum := by
  by_cases halpha : c.isAlpha
  · exact isAlphanum_of_isAlpha ((isAlpha_eq_of_toUpper_eq h).symm.trans halpha)
  · rwa [← eq_of_toUpper_eq h (by simpa using halpha)]

end

/-- Letters and digits are among the first 128 characters. -/
theorem toNat_lt_of_isAlphanum {c : Char} (h : c.isAlphanum) : c.toNat < 0x80 := by
  unfold Char.isAlphanum Char.isAlpha Char.isUpper Char.isLower Char.isDigit at h
  simp only [ge_iff_le, Bool.or_eq_true, Bool.and_eq_true, decide_eq_true_eq,
    UInt32.le_iff_toNat_le] at h
  simp only [Char.toNat]
  simp at h ⊢
  omega

/-! ## Texts -/

namespace SameLetters

variable {a b : List Char}

/-- Texts with the same letters may change places. -/
theorem symm (h : SameLetters a b) : SameLetters b a :=
  Eq.symm h

/-- A text with the same letters as one that is not empty is not empty. -/
theorem ne_nil (h : SameLetters a b) (ha : a ≠ []) : b ≠ [] := by
  rintro rfl
  exact ha (List.map_eq_nil_iff.mp h)

/-- What the characters of one text have in common, in either case, those of the other have too. -/
theorem forall_mem {p : Char → Prop} (hp : ∀ c d : Char, c.toUpper = d.toUpper → p c → p d)
    (h : SameLetters a b) (ha : ∀ c ∈ a, p c) : ∀ d ∈ b, p d := by
  intro d hd
  have hupper : d.toUpper ∈ a.map Char.toUpper := by
    rw [h]
    exact List.mem_map_of_mem hd
  obtain ⟨c, hc, heq⟩ := List.mem_map.mp hupper
  exact hp c d heq (ha c hc)

/-- A text with the same letters as one of letters and digits is made of such. -/
theorem isAlphanum (h : SameLetters a b) (ha : ∀ c ∈ a, c.isAlphanum) : ∀ d ∈ b, d.isAlphanum :=
  h.forall_mem (fun _ _ => isAlphanum_of_toUpper_eq) ha

/-- A text with the same letters as one of letters is made of letters. -/
theorem isAlpha (h : SameLetters a b) (ha : ∀ c ∈ a, c.isAlpha) : ∀ d ∈ b, d.isAlpha :=
  h.forall_mem (fun _ _ heq hc => (isAlpha_eq_of_toUpper_eq heq).symm.trans hc) ha

/-- Digits have only one case. -/
theorem eq_of_isDigit (h : SameLetters a b) (ha : ∀ c ∈ a, c.isDigit) : a = b := by
  induction a generalizing b with
  | nil => exact (List.map_eq_nil_iff.mp h.symm).symm
  | cons c rest ih =>
      obtain ⟨d, more, rfl, hd, hmore⟩ := List.map_eq_cons_iff.mp h.symm
      have hc : c = d :=
        eq_of_toUpper_eq hd.symm (not_isAlpha_of_isDigit (ha c List.mem_cons_self))
      rw [hc, ih hmore.symm fun e he => ha e (List.mem_cons_of_mem c he)]

/-- A numeral of letters stands for the same number in either case. -/
theorem placeValue_eq (h : SameLetters a b) :
    placeValue 26 Column.letterValue a = placeValue 26 Column.letterValue b := by
  have hvalue : ∀ text : List Char, text.map Column.letterValue
      = (text.map Char.toUpper).map fun c => c.toNat - 'A'.toNat + 1 := by
    intro text
    rw [List.map_map]
    rfl
  rw [placeValue, placeValue, List.map_reverse, List.map_reverse, hvalue a, hvalue b, h]

end SameLetters

/-! ## Addresses and names -/

/-- An address in letters of either case is the same address. -/
theorem CellRef.ofChars?_of_sameLetters {address text : List Char} {c : CellRef}
    (hread : ofChars? address = some c) (htrim : Text.trim address = address)
    (h : SameLetters address text) :
    ofChars? text = some c ∧
      ∃ letters digits, text = letters ++ digits ∧ c.Spelling letters digits := by
  obtain ⟨letters, digits, hparts, hspelling⟩ := ofChars?_eq_some_iff.mp hread
  rw [htrim] at hparts
  subst hparts
  obtain ⟨letters', digits', rfl, hletters, hdigits⟩ := List.map_eq_append_iff.mp
    (h.symm.trans (List.map_append ..))
  have hletters : SameLetters letters letters' := hletters.symm
  -- A digit is the same in capital and small letters, so only the letters of the column can differ.
  obtain rfl : digits = digits' := SameLetters.eq_of_isDigit hdigits.symm hspelling.isDigit
  -- The column is the place value of its letters, and that does not see the case.
  have hspelling' : c.Spelling letters' digits :=
    { hspelling with
      letters_ne_nil := hletters.ne_nil hspelling.letters_ne_nil
      isAlpha := hletters.isAlpha hspelling.isAlpha
      column_eq := hletters.placeValue_eq.symm.trans hspelling.column_eq }
  have hblank : ∀ d ∈ letters' ++ digits, Text.isBlank d = false := by
    intro d hd
    rcases List.mem_append.mp hd with hd | hd
    · exact not_isBlank_of_isAlphanum (isAlphanum_of_isAlpha (hspelling'.isAlpha d hd))
    · exact not_isBlank_of_isAlphanum (isAlphanum_of_isDigit (hspelling'.isDigit d hd))
  exact ⟨ofChars?_eq_some_iff.mpr ⟨letters', digits, Text.trim_of_noBlanks hblank, hspelling'⟩,
    letters', digits, rfl, hspelling'⟩

/-- ASCII letters and digits are put in capitals one by one. -/
theorem upper_of_isAlphanum {name : List Char} (h : ∀ c ∈ name, c.isAlphanum) :
    Text.upper name = name.map Char.toUpper := by
  induction name with
  | nil => rfl
  | cons c rest ih =>
      have hcapital : Text.capital c = [c.toUpper] := by
        rw [Text.capital, if_pos (toNat_lt_of_isAlphanum (h c List.mem_cons_self))]
      rw [Text.upper, List.flatMap_cons, hcapital]
      exact congrArg (c.toUpper :: ·) (ih fun d hd => h d (List.mem_cons_of_mem c hd))

/-- A name in letters of either case is the name of the same function. -/
theorem Builtin.ofName?_of_sameLetters {name text : List Char} (hname : ∀ c ∈ name, c.isAlphanum)
    (h : SameLetters name text) : ofName? text = ofName? name := by
  rw [ofName?, ofName?, upper_of_isAlphanum hname, upper_of_isAlphanum (h.isAlphanum hname), h]

end FormulaTable
