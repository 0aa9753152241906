import FormulaTable.Number.Decimal
import FormulaTable.Proofs.Formula.Form

/-!
# `FormulaTable.Proofs.Number.Numeral`: the characters of a number

A number in decimal notation consists of digits, signs, points and the letter of its power of ten
(`Decimal.isNumeralChar_of_ofChars?`), and does not begin with a letter
(`Decimal.head_of_ofChars?`). So it has nothing in it that means something elsewhere in a formula.
-/

set_option autoImplicit false

namespace FormulaTable.Decimal

/-- The characters that a number in decimal notation may have. -/
def isNumeralChar (c : Char) : Bool :=
  c.isDigit || ['+', '-', '.', 'e', 'E'].contains c

/-- Digits may stand in a numeral. -/
theorem isNumeralChar_of_isDigit {c : Char} (h : c.isDigit) : isNumeralChar c := by
  simp [isNumeralChar, h]

/-- Blanks may not stand in a numeral. -/
theorem not_isBlank_of_isNumeralChar {c : Char} (h : isNumeralChar c) : Text.isBlank c = false := by
  rw [isNumeralChar, Bool.or_eq_true, List.contains_iff_mem] at h
  rcases h with hdigit | hmark
  · exact not_isBlank_of_isAlphanum (isAlphanum_of_isDigit hdigit)
  · simp only [List.mem_cons, List.not_mem_nil, or_false] at hmark
    rcases hmark with rfl | rfl | rfl | rfl | rfl <;> decide

/-- A sign is the first character or there is none. -/
theorem takeSign_cases (text : List Char) :
    (takeSign text).2 = text ∨ ∃ sign, isNumeralChar sign ∧ text = sign :: (takeSign text).2 := by
  unfold takeSign
  split
  · exact Or.inr ⟨'-', by decide, rfl⟩
  · exact Or.inr ⟨'+', by decide, rfl⟩
  · exact Or.inl rfl

/-- Nothing but a sign is taken off the front. -/
theorem forall_of_takeSign {text : List Char} (h : ∀ c ∈ (takeSign text).2, isNumeralChar c) :
    ∀ c ∈ text, isNumeralChar c := by
  rcases takeSign_cases text with hsame | ⟨sign, hsign, htext⟩
  · rwa [hsame] at h
  · rw [htext, List.forall_mem_cons]
    exact ⟨hsign, h⟩

/-- What is read as an exponent is made of characters of numerals. -/
theorem isNumeralChar_of_exponentOf? {text : List Char} {power : Int}
    (h : exponentOf? text = some power) : ∀ c ∈ text, isNumeralChar c := by
  cases text with
  | nil => simp
  | cons mark rest =>
      simp only [exponentOf?] at h
      split at h
      · next hcond =>
          simp only [Bool.and_eq_true, Bool.or_eq_true, decide_eq_true_eq, List.all_eq_true]
            at hcond
          obtain ⟨⟨hmark, -⟩, hdigits⟩ := hcond
          refine List.forall_mem_cons.mpr ⟨?_, forall_of_takeSign fun c hc =>
            isNumeralChar_of_isDigit (hdigits c hc)⟩
          rcases hmark with rfl | rfl <;> decide
      · cases h

/-- A number has no other characters. -/
theorem isNumeralChar_of_ofChars? {text : List Char} {d : Decimal} (h : ofChars? text = some d) :
    ∀ c ∈ text, isNumeralChar c := by
  refine forall_of_takeSign ?_
  have hdigits : ∀ cs : List Char, ∀ c ∈ cs.takeWhile Char.isDigit, isNumeralChar c :=
    fun cs c hc => isNumeralChar_of_isDigit (List.mem_takeWhile_imp hc)
  rw [← List.takeWhile_append_dropWhile (p := Char.isDigit) (l := (takeSign text).2),
    List.forall_mem_append]
  refine ⟨hdigits _, ?_⟩
  simp only [ofChars?] at h
  split at h
  · next hpoint =>
      -- Behind the point there are more digits, and then the power.
      obtain ⟨more, hmore⟩ := List.head?_eq_some_iff.mp hpoint
      rw [hmore] at h ⊢
      split at h
      · cases h
      · obtain ⟨power, hpower, -⟩ := Option.bind_eq_some_iff.mp h
        have hexponent := isNumeralChar_of_exponentOf? hpower
        rw [List.forall_mem_cons, ← List.takeWhile_append_dropWhile (p := Char.isDigit) (l := more)]
        exact ⟨by decide, List.forall_mem_append.mpr ⟨hdigits more, hexponent⟩⟩
  · split at h
    · cases h
    · obtain ⟨power, hpower, -⟩ := Option.bind_eq_some_iff.mp h
      exact isNumeralChar_of_exponentOf? hpower

/-- A number has a first character, which is no letter. -/
theorem head_of_ofChars? {text : List Char} {d : Decimal} (h : ofChars? text = some d) :
    ∃ c rest, text = c :: rest ∧ c.isAlpha = false := by
  cases text with
  | nil => cases h
  | cons c rest =>
      refine ⟨c, rest, rfl, ?_⟩
      by_contra hletter
      rw [Bool.not_eq_false] at hletter
      rw [ofChars?_of_letter hletter] at h
      cases h

end FormulaTable.Decimal
