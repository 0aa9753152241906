import FormulaTable.Formula.Expr
import Mathlib.Data.List.TakeWhile

/-!
# `FormulaTable.Proofs.Formula.Form`: a formula has one form at most

The forms of a formula are tried one after the other. `HasForm` says which form a text has, and
`Expr.hasForm_ofBody` that this is the form that is found. A call is the same call as a formula and
as an argument (`Expr.ofFormula_of_splitCall?`, `Arg.ofString_of_splitCall?`).

For simple arithmetic the order makes no difference: such a text begins with a letter and has an
operator in it, so it is no call (`splitCall?_of_splitArithmetic?`), no address
(`ofChars?_of_splitArithmetic?`) and no number (`parseNumber_of_splitArithmetic?`).
-/

set_option autoImplicit false

namespace FormulaTable

/-! ## Characters and blanks -/

/-- Letters and digits are no blanks. -/
theorem not_isBlank_of_isAlphanum {c : Char} (h : c.isAlphanum) : Text.isBlank c = false := by
  unfold Char.isAlphanum Char.isAlpha Char.isUpper Char.isLower Char.isDigit at h
  simp only [ge_iff_le, Bool.or_eq_true, Bool.and_eq_true, decide_eq_true_eq,
    UInt32.le_iff_toNat_le] at h
  simp only [Text.isBlank, Char.toNat]
  simp at h ⊢
  omega

/-- Letters are letters or digits. -/
theorem isAlphanum_of_isAlpha {c : Char} (h : c.isAlpha) : c.isAlphanum := by
  simp [Char.isAlphanum, h]

/-- Digits are letters or digits. -/
theorem isAlphanum_of_isDigit {c : Char} (h : c.isDigit) : c.isAlphanum := by
  simp [Char.isAlphanum, h]

/-- No digit is a letter. -/
theorem not_isAlpha_of_isDigit {c : Char} (h : c.isDigit) : c.isAlpha = false := by
  unfold Char.isDigit at h
  unfold Char.isAlpha Char.isUpper Char.isLower
  simp only [ge_iff_le, Bool.and_eq_true, decide_eq_true_eq, UInt32.le_iff_toNat_le] at h ⊢
  simp at h ⊢
  omega

/-- A letter is none of the characters that are no letters. -/
theorem ne_of_isAlpha {c d : Char} (hc : c.isAlpha) (hd : d.isAlpha = false) : c ≠ d := by
  rintro rfl
  rw [hc] at hd
  cases hd

namespace Text

/-- What is dropped has the property, so a character without it is left. -/
theorem mem_dropWhile {p : Char → Bool} {text : List Char} {c : Char} (h : c ∈ text)
    (hc : p c = false) : c ∈ text.dropWhile p := by
  rw [← List.takeWhile_append_dropWhile (p := p) (l := text)] at h
  rcases List.mem_append.mp h with hleft | hright
  · have := List.mem_takeWhile_imp hleft
    simp [hc] at this
  · exact hright

/-- A search that goes past everything in front of a character, but not past the character, stops
there. -/
theorem cut_append {p : Char → Bool} {before : List Char} {c : Char} (hbefore : ∀ d ∈ before, p d)
    (hc : p c = false) (rest : List Char) :
    (before ++ c :: rest).takeWhile p = before ∧ (before ++ c :: rest).dropWhile p = c :: rest := by
  have hstop : ¬p c = true := by simp [hc]
  constructor
  · rw [List.takeWhile_append_of_pos hbefore, List.takeWhile_cons_of_neg hstop, List.append_nil]
  · rw [List.dropWhile_append_of_pos hbefore, List.dropWhile_cons_of_neg hstop]

/-- Trimming takes away nothing but blanks. -/
theorem mem_trim {text : List Char} {c : Char} (h : c ∈ text) (hc : isBlank c = false) :
    c ∈ trim text := by
  rw [trim, trimEnd, List.mem_reverse]
  exact mem_dropWhile (List.mem_reverse.mpr (mem_dropWhile h hc)) hc

/-- A text that does not begin with a blank is trimmed at its end only. -/
theorem trim_cons {c : Char} (hc : isBlank c = false) (rest : List Char) :
    trim (c :: rest) = c :: trimEnd rest := by
  have hstart : trimStart (c :: rest) = c :: rest := by simp [trimStart, hc]
  rw [trim, hstart, trimEnd, trimEnd, List.reverse_cons, List.dropWhile_append]
  cases hrest : rest.reverse.dropWhile isBlank with
  | nil => simp [hc]
  | cons d before => simp

/-- There are no blanks behind a character that is none. -/
theorem trimEnd_concat {c : Char} (hc : isBlank c = false) (text : List Char) :
    trimEnd (text ++ [c]) = text ++ [c] := by
  simp [trimEnd, hc]

end Text

/-! ## Calls -/

section
variable {body name inner : List Char}

/-- A call is a name of letters and digits that begins with a letter, and parentheses around what is
inside, which is balanced. -/
theorem parts_of_splitCall? (h : splitCall? body = some (name, inner)) :
    (name.head?.any Char.isAlpha = true ∧ ∀ c ∈ name, c.isAlphanum = true) ∧
      body = name ++ '(' :: (inner ++ [')']) ∧ balanced inner = true := by
  simp only [splitCall?] at h
  split at h
  · next behind hbehind =>
      split at h
      · next hcond =>
          simp only [Bool.and_eq_true, beq_iff_eq] at hcond
          obtain ⟨⟨hletter, hlast⟩, hbalanced⟩ := hcond
          -- The text behind the opening parenthesis ends in a closing one, and what stands before
          -- that is the inside.
          obtain ⟨inside, rfl⟩ := List.getLast?_eq_some_iff.mp hlast
          rw [List.dropLast_concat] at h hbalanced
          obtain ⟨rfl, rfl⟩ : body.takeWhile Char.isAlphanum = name ∧ inside = inner := by
            simpa using h
          refine ⟨⟨hletter, fun c hc => List.mem_takeWhile_imp hc⟩, ?_, hbalanced⟩
          rw [← hbehind, List.takeWhile_append_dropWhile]
      · simp at h
  · simp at h

/-- A call begins with a letter and ends with a parenthesis. -/
theorem eq_of_splitCall? (h : splitCall? body = some (name, inner)) :
    ∃ c rest, c.isAlpha ∧ name = c :: rest ∧ body = c :: (rest ++ '(' :: inner ++ [')']) := by
  obtain ⟨⟨hletter, -⟩, hbody, -⟩ := parts_of_splitCall? h
  cases name with
  | nil => simp at hletter
  | cons c rest =>
      refine ⟨c, rest, by simpa using hletter, rfl, ?_⟩
      rw [hbody, List.append_assoc, List.cons_append, List.cons_append]

end

/-! ## Simple arithmetic -/

/-- An operator is no letter and no digit, no blank and no parenthesis. -/
theorem Operator.mark_of_ofChar? {c : Char} {operator : Operator} (h : ofChar? c = some operator) :
    c.isAlphanum = false ∧ Text.isBlank c = false ∧ c ≠ '(' := by
  have hc : c = '+' ∨ c = '-' ∨ c = '*' ∨ c = '/' := by
    unfold ofChar? at h
    split at h <;> simp at h ⊢
  rcases hc with rfl | rfl | rfl | rfl <;> decide

section
variable {body left right : List Char} {operator : Operator}

/-- In simple arithmetic, letters and digits have the shape of an address, and what follows them is
the operator, with blanks in front. -/
theorem parts_of_splitArithmetic? (h : splitArithmetic? body = some (left, operator, right)) :
    ∃ mark more, Operator.ofChar? mark = some operator ∧
      Text.trimStart ((body.dropWhile Char.isAlpha).dropWhile Char.isDigit) = mark :: more ∧
      isAddressShaped
        (body.takeWhile Char.isAlpha ++ (body.dropWhile Char.isAlpha).takeWhile Char.isDigit) := by
  simp only [splitArithmetic?] at h
  -- The operator is the first character behind the address that is not blank.
  split at h
  · simp at h
  · next mark more hmark =>
      split at h
      · next operator' hoperator =>
          split at h
          · next hcond =>
              obtain ⟨-, rfl, -⟩ : _ ∧ operator' = operator ∧ _ := by simpa using h
              rw [Bool.and_eq_true] at hcond
              exact ⟨mark, more, hoperator, hmark, hcond.1⟩
          · simp at h
      · simp at h

/-- Simple arithmetic begins with a letter. -/
theorem exists_letter_of_splitArithmetic?
    (h : splitArithmetic? body = some (left, operator, right)) :
    ∃ c rest, c.isAlpha ∧ body = c :: rest := by
  obtain ⟨-, -, -, -, hleft⟩ := parts_of_splitArithmetic? h
  cases body with
  | nil => simp [isAddressShaped, CellRef.splitAddress?] at hleft
  | cons c rest =>
      refine ⟨c, rest, ?_, rfl⟩
      by_contra hc
      -- Without letters in front, there are digits at most, and they are no address.
      have hnone : ((c :: rest).takeWhile Char.isDigit).takeWhile Char.isAlpha = [] := by
        by_cases hdigit : c.isDigit
        · simp [hdigit, hc]
        · simp [hdigit]
      simp [isAddressShaped, CellRef.splitAddress?, hc, hnone] at hleft

/-- Simple arithmetic has an operator in it. -/
theorem exists_operator_of_splitArithmetic?
    (h : splitArithmetic? body = some (left, operator, right)) :
    ∃ mark ∈ body, Operator.ofChar? mark = some operator := by
  obtain ⟨mark, more, hoperator, hmark, -⟩ := parts_of_splitArithmetic? h
  have hsuffix : mark :: more <:+ body := by
    rw [← hmark]
    exact (List.dropWhile_suffix _).trans
      ((List.dropWhile_suffix _).trans (List.dropWhile_suffix _))
  exact ⟨mark, hsuffix.mem List.mem_cons_self, hoperator⟩

/-- The letters and digits in front of simple arithmetic are followed by something else, and that is
no parenthesis. -/
theorem dropWhile_of_splitArithmetic? (h : splitArithmetic? body = some (left, operator, right)) :
    ∃ next behind, body.dropWhile Char.isAlphanum = next :: behind ∧ next ≠ '(' := by
  obtain ⟨mark, more, hoperator, hmark, -⟩ := parts_of_splitArithmetic? h
  obtain ⟨halphanum, -, hparenthesis⟩ := Operator.mark_of_ofChar? hoperator
  cases hbehind : (body.dropWhile Char.isAlpha).dropWhile Char.isDigit with
  | nil => simp [hbehind, Text.trimStart] at hmark
  | cons next behind =>
      rw [hbehind, Text.trimStart, List.dropWhile_cons] at hmark
      -- The next character is a blank or the operator.
      have hnext : next.isAlphanum = false ∧ next ≠ '(' := by
        by_cases hblank : Text.isBlank next
        · refine ⟨?_, ?_⟩
          · by_contra hother
            rw [Bool.not_eq_false] at hother
            rw [not_isBlank_of_isAlphanum hother] at hblank
            cases hblank
          · rintro rfl
            exact absurd hblank (by decide)
        · rw [if_neg hblank] at hmark
          obtain rfl : next = mark := (List.cons.inj hmark).1
          exact ⟨halphanum, hparenthesis⟩
      refine ⟨next, behind, ?_, hnext.2⟩
      have hcut : body = body.takeWhile Char.isAlpha
          ++ ((body.dropWhile Char.isAlpha).takeWhile Char.isDigit ++ next :: behind) := by
        rw [← hbehind, List.takeWhile_append_dropWhile, List.takeWhile_append_dropWhile]
      have hletters : ∀ c ∈ body.takeWhile Char.isAlpha, c.isAlphanum :=
        fun c hc => isAlphanum_of_isAlpha (List.mem_takeWhile_imp hc)
      have hdigits : ∀ c ∈ (body.dropWhile Char.isAlpha).takeWhile Char.isDigit, c.isAlphanum :=
        fun c hc => isAlphanum_of_isDigit (List.mem_takeWhile_imp hc)
      rw [hcut, List.dropWhile_append_of_pos hletters, List.dropWhile_append_of_pos hdigits,
        List.dropWhile_cons_of_neg (by simp [hnext.1])]

/-- Simple arithmetic is no call. -/
theorem splitCall?_of_splitArithmetic?
    (h : splitArithmetic? body = some (left, operator, right)) : splitCall? body = none := by
  obtain ⟨next, behind, hafter, hnext⟩ := dropWhile_of_splitArithmetic? h
  simp only [splitCall?, hafter]
  split
  · next rest heq => exact absurd (List.cons.inj heq).1 hnext
  · rfl

/-- Simple arithmetic is no address. -/
theorem ofChars?_of_splitArithmetic?
    (h : splitArithmetic? body = some (left, operator, right)) : CellRef.ofChars? body = none := by
  obtain ⟨mark, hmem, hoperator⟩ := exists_operator_of_splitArithmetic? h
  obtain ⟨halphanum, hblank, -⟩ := Operator.mark_of_ofChar? hoperator
  have hother : mark.isAlpha = false ∧ mark.isDigit = false := by
    simpa [Char.isAlphanum] using halphanum
  -- The operator is left after the letters, and is no digit.
  have hleft : mark ∈ (Text.trim body).dropWhile Char.isAlpha :=
    Text.mem_dropWhile (Text.mem_trim hmem hblank) hother.1
  have hnone : CellRef.splitAddress? (Text.trim body) = none := by
    simp only [CellRef.splitAddress?]
    rw [if_neg]
    simp only [Bool.and_eq_true, List.all_eq_true, not_and]
    intro _ hall
    have hdigit : mark.isDigit = true := hall mark hleft
    simp [hother.2] at hdigit
  rw [CellRef.ofChars?, hnone]
  rfl

/-- No number begins with a letter. -/
theorem Decimal.ofChars?_of_letter {c : Char} (h : c.isAlpha) (rest : List Char) :
    Decimal.ofChars? (c :: rest) = none := by
  have hdigit : c.isDigit = false := by
    by_contra hdigit
    rw [Bool.not_eq_false] at hdigit
    rw [not_isAlpha_of_isDigit hdigit] at h
    cases h
  have hsign : takeSign (c :: rest) = (false, c :: rest) := by
    unfold takeSign
    split
    · next heq => exact absurd (List.cons.inj heq).1 (ne_of_isAlpha h (by decide))
    · next heq => exact absurd (List.cons.inj heq).1 (ne_of_isAlpha h (by decide))
    · rfl
  have hpoint : c ≠ '.' := ne_of_isAlpha h (by decide)
  simp [ofChars?, hsign, hdigit, hpoint]

/-- Simple arithmetic is no number. -/
theorem parseNumber_of_splitArithmetic?
    (h : splitArithmetic? body = some (left, operator, right)) : parseNumber body = none := by
  obtain ⟨c, rest, hletter, rfl⟩ := exists_letter_of_splitArithmetic? h
  have hblank : Text.isBlank c = false := not_isBlank_of_isAlphanum (isAlphanum_of_isAlpha hletter)
  rw [parseNumber, Text.trim_cons hblank, Decimal.ofChars?_of_letter hletter]
  rfl

end

/-! ## The form that is found -/

/-- The forms of a text without blanks around it. A text with no form has none of the marks of the
others; simple arithmetic needs no more than its own. -/
inductive HasForm (body : List Char) : Expr → Prop where
  | call {name inner : List Char} (hcall : splitCall? body = some (name, inner)) :
    HasForm body (.call (Builtin.ofName? name) ((arguments inner).map Arg.ofChars))
  | cell {c : CellRef} (hcall : splitCall? body = none) (hcell : CellRef.ofChars? body = some c) :
    HasForm body (.cell c)
  | arithmetic {left right : List Char} {operator : Operator}
    (harithmetic : splitArithmetic? body = some (left, operator, right)) :
    HasForm body (.arithmetic (Operand.ofChars left) operator (Operand.ofChars right))
  | number {n : Float} (hcall : splitCall? body = none) (hcell : CellRef.ofChars? body = none)
    (harithmetic : splitArithmetic? body = none) (hnumber : parseNumber body = some n) :
    HasForm body (.number n)
  | formless (hcall : splitCall? body = none) (hcell : CellRef.ofChars? body = none)
    (harithmetic : splitArithmetic? body = none) (hnumber : parseNumber body = none) :
    HasForm body .formless

/-- The form that is found for a formula is one of its text without the blanks around it. -/
theorem Expr.hasForm_ofBody (body : List Char) : HasForm (Text.trim body) (Expr.ofBody body) := by
  -- The stages in their order; each form carries that the stages before it refused.
  rw [Expr.ofBody]
  split
  · next name inner hcall =>
      rw [List.attach_map_val]
      exact .call hcall
  · next hcall =>
      split
      · next c hcell => exact .cell hcall hcell
      · next hcell =>
          split
          · next left operator right harithmetic => exact .arithmetic harithmetic
          · next harithmetic =>
              split
              · next n hnumber => exact .number hcall hcell harithmetic hnumber
              · next hnumber => exact .formless hcall hcell harithmetic hnumber

/-- A text has one form. For simple arithmetic this is not a matter of the order in which the forms
are tried, because such a text is neither a call nor an address. -/
theorem HasForm.unique {body : List Char} {e e' : Expr} (h : HasForm body e)
    (h' : HasForm body e') :
    e = e' := by
  have hcall : ∀ {left operator right}, splitArithmetic? body = some (left, operator, right) →
      splitCall? body = none := splitCall?_of_splitArithmetic?
  have hcell : ∀ {left operator right}, splitArithmetic? body = some (left, operator, right) →
      CellRef.ofChars? body = none := ofChars?_of_splitArithmetic?
  cases h <;> cases h' <;> simp_all

/-! ## Calls as formulas and as arguments -/

section
variable {body name inner : List Char}

/-- There are no blanks around a call, no `=` in front and no quotation marks around it. -/
theorem trim_of_splitCall? (h : splitCall? body = some (name, inner)) :
    Text.trim body = body ∧ bodyOf body = body ∧ unquote? body = none := by
  obtain ⟨c, rest, hletter, -, rfl⟩ := eq_of_splitCall? h
  have hblank : Text.isBlank c = false := not_isBlank_of_isAlphanum (isAlphanum_of_isAlpha hletter)
  refine ⟨?_, ?_, ?_⟩
  · rw [Text.trim_cons hblank, Text.trimEnd_concat (by decide)]
  · unfold bodyOf
    split
    · next heq => exact absurd (List.cons.inj heq).1 (ne_of_isAlpha hletter (by decide))
    · rfl
  · have hdouble : c ≠ '\x22' := ne_of_isAlpha hletter (by decide)
    have hsingle : c ≠ '\x27' := ne_of_isAlpha hletter (by decide)
    have hquote : isQuote c = false := by simp [isQuote, hdouble, hsingle]
    simp [unquote?, hquote]

/-- As a formula, a call is that call. -/
theorem Expr.ofFormula_of_splitCall? {formula : String}
    (h : splitCall? formula.toList = some (name, inner)) :
    Expr.ofFormula formula
      = .call (Builtin.ofName? name) ((arguments inner).map Arg.ofChars) := by
  obtain ⟨htrim, hbody, -⟩ := trim_of_splitCall? h
  have hform := Expr.hasForm_ofBody formula.toList
  rw [htrim] at hform
  rw [Expr.ofFormula, hbody, hform.unique (.call h)]

/-- As an argument, a call is the same as it is as a formula. -/
theorem Arg.ofString_of_splitCall? {argument : String}
    (h : splitCall? argument.toList = some (name, inner)) :
    Arg.ofString argument = .call (Builtin.ofName? name) ((arguments inner).map Arg.ofChars) := by
  obtain ⟨-, -, hunquoted⟩ := trim_of_splitCall? h
  rw [Arg.ofString, Arg.ofChars]
  split
  · next inside hinside => simp [hunquoted] at hinside
  · split
    · next name' inner' hcall =>
        rw [h] at hcall
        cases hcall
        rw [List.attach_map_val]
    · next hcall => simp [h] at hcall

end

/-! ## Names of functions -/

namespace Builtin

/-- Every function is found by its name, so no two have the same. -/
theorem find?_name (f : Builtin) : (all.find? fun h => h.name == f.name) = some f := by
  cases f <;> decide +kernel

/-- A name stands for a function if it is the name of the function in capitals. -/
theorem ofName?_eq_some {name : List Char} {f : Builtin} :
    ofName? name = some f ↔ f.name = String.ofList (Text.upper name) := by
  constructor
  · intro h
    rw [ofName?] at h
    simpa using List.find?_some h
  · intro h
    rw [ofName?, ← h]
    exact find?_name f

/-- A name stands for no function if no function has it. -/
theorem ofName?_eq_none {name : List Char} :
    ofName? name = none ↔ ∀ f : Builtin, f.name ≠ String.ofList (Text.upper name) := by
  rw [Option.eq_none_iff_forall_ne_some]
  exact forall_congr' fun f => not_congr ofName?_eq_some

end Builtin
end FormulaTable
