import FormulaTable.Proofs.Formula.Argument
import FormulaTable.Proofs.Formula.Calls
import FormulaTable.Proofs.Formula.Letters
import FormulaTable.Proofs.Number.Numeral

/-!
# `FormulaTable.Proofs.Formula.Leaf`: the parts of a formula that are no calls

What stands in a formula besides calls are addresses, ranges, quoted texts and numbers. An
`ArgumentLeaf` is one of them as the argument of a call, a `RightSide` as the right side of simple
arithmetic. Each may be written in several ways (`ArgumentLeaf.Written`, `RightSide.Written`): the
letters of an address in either case, and a range with blanks around its colon. Quoted texts and
numbers are written in one way.

However it is written, it is read as the same (`ArgumentLeaf.Written.isArgument_and_form`,
`RightSide.Written.shape_and_form`).
-/

set_option autoImplicit false

namespace FormulaTable

/-! ## What is said -/

/-- The address of a cell, without blanks around it. -/
structure Address where
  chars : List Char
  cell : CellRef
  read_eq : CellRef.ofChars? chars = some cell
  trim_eq : Text.trim chars = chars

/-- A number in decimal notation, perhaps with a sign and a power of ten. It may be too large to be
finite. -/
structure Numeral where
  chars : List Char
  decimal : Decimal
  read_eq : Decimal.ofChars? chars = some decimal

/-- A quoted text, without its own quotation mark in it. -/
structure Quotation where
  mark : Char
  inside : List Char
  isQuote : isQuote mark
  mark_not_mem : mark ∉ inside

/-- Digits, perhaps with more digits behind a point. -/
structure UnsignedDecimal where
  whole : List Char
  fraction : List Char
  whole_ne_nil : whole ≠ []
  whole_isDigit : ∀ c ∈ whole, c.isDigit
  fraction_isDigit : ∀ c ∈ fraction, c.isDigit

/-- An argument that is no call. -/
inductive ArgumentLeaf where
  | cell (address : Address)
  | range (first last : Address)
  | quoted (quotation : Quotation)
  | number (numeral : Numeral)

/-- The right side of simple arithmetic. -/
inductive RightSide where
  | cell (address : Address)
  | number (decimal : UnsignedDecimal)

/-! ## How it may be written -/

/-- A quoted text as it is written. -/
def Quotation.chars (q : Quotation) : List Char :=
  [q.mark] ++ q.inside ++ [q.mark]

/-- Digits as they are written; there is a point only in front of more digits. -/
def UnsignedDecimal.chars (d : UnsignedDecimal) : List Char :=
  d.whole ++ if d.fraction.isEmpty then [] else '.' :: d.fraction

/-- The texts that an argument may be written as. Blanks may stand around the colon of a range. -/
inductive ArgumentLeaf.Written : ArgumentLeaf → List Char → Prop where
  | cell {address : Address} {text : List Char} (htext : SameLetters address.chars text) :
    Written (.cell address) text
  | range {first last : Address} {text text' before after : List Char}
    (hfirst : SameLetters first.chars text) (hlast : SameLetters last.chars text')
    (hbefore : Text.AllBlank before) (hafter : Text.AllBlank after) :
    Written (.range first last) (text ++ (before ++ ':' :: after) ++ text')
  | quoted {quotation : Quotation} : Written (.quoted quotation) quotation.chars
  | number {numeral : Numeral} : Written (.number numeral) numeral.chars

/-- The texts that the right side of simple arithmetic may be written as. -/
inductive RightSide.Written : RightSide → List Char → Prop where
  | cell {address : Address} {text : List Char} (htext : SameLetters address.chars text) :
    Written (.cell address) text
  | number {decimal : UnsignedDecimal} : Written (.number decimal) decimal.chars

/-! ## How it is read -/

/-- A number as a formula; one that is not finite has no value. -/
def Numeral.form (numeral : Numeral) : Expr :=
  match parseNumber numeral.chars with
  | some n => .number n
  | none => .formless

/-- The form of an argument that is no call. -/
def ArgumentLeaf.form : ArgumentLeaf → Arg
  | .cell address => .cell address.cell
  | .range first last => .range (.spanning first.cell last.cell)
  | .quoted quotation => .plain (String.ofList quotation.inside)
  | .number numeral =>
    match parseNumber numeral.chars with
    | some n => .number n (String.ofList numeral.chars)
    | none => .other .formless (String.ofList numeral.chars)

/-- The form of the right side of simple arithmetic. -/
def RightSide.form : RightSide → Operand
  | .cell address => .cell address.cell
  | .number decimal => .number ((parseNumber decimal.chars).getD 0)

/-! ### Addresses -/

/-- What spells an address has the shape of one. -/
theorem CellRef.Spelling.isAddressShaped {c : CellRef} {letters digits : List Char}
    (h : c.Spelling letters digits) : isAddressShaped (letters ++ digits) := by
  rw [FormulaTable.isAddressShaped, splitAddress?_append h.isAlpha h.isDigit h.letters_ne_nil
    h.digits_ne_nil]
  rfl

namespace Address

variable {address : Address} {text : List Char} (h : SameLetters address.chars text)
include h

/-- A text that says an address is read as its cell. -/
theorem ofChars?_eq : CellRef.ofChars? text = some address.cell :=
  (CellRef.ofChars?_of_sameLetters address.read_eq address.trim_eq h).1

/-- A text that says an address spells it, with letters of some case. -/
theorem exists_spelling :
    ∃ letters digits, text = letters ++ digits ∧ address.cell.Spelling letters digits :=
  (CellRef.ofChars?_of_sameLetters address.read_eq address.trim_eq h).2

/-- An address is letters and digits. -/
theorem isAlphanum_of_mem : ∀ c ∈ text, c.isAlphanum := by
  obtain ⟨letters, digits, rfl, hspelling⟩ := exists_spelling h
  rw [List.forall_mem_append]
  exact ⟨fun c hc => isAlphanum_of_isAlpha (hspelling.isAlpha c hc),
    fun c hc => isAlphanum_of_isDigit (hspelling.isDigit c hc)⟩

/-- A text that says an address is not empty. -/
theorem ne_nil : text ≠ [] := by
  obtain ⟨letters, digits, rfl, hspelling⟩ := exists_spelling h
  simp [hspelling.letters_ne_nil]

/-- There are no blanks in an address. -/
theorem not_isBlank_of_mem : ∀ c ∈ text, Text.isBlank c = false :=
  fun c hc => not_isBlank_of_isAlphanum (isAlphanum_of_mem h c hc)

/-- A text that says an address has the shape of one. -/
theorem isAddressShaped_eq : isAddressShaped text := by
  obtain ⟨letters, digits, rfl, hspelling⟩ := exists_spelling h
  exact hspelling.isAddressShaped

end Address

/-- Blanks around an address do not matter. -/
theorem CellRef.ofChars?_padded {before after : List Char} (hbefore : Text.AllBlank before)
    (hafter : Text.AllBlank after) (text : List Char) :
    ofChars? (before ++ text ++ after) = ofChars? text := by
  rw [ofChars?, Text.trim_padded hbefore hafter, ofChars?]

/-- No address begins with a character that is neither a letter nor blank. -/
theorem CellRef.ofChars?_eq_none_of_head {c : Char} (hletter : c.isAlpha = false)
    (hblank : Text.isBlank c = false) (rest : List Char) : ofChars? (c :: rest) = none := by
  rw [ofChars?, Text.trim_cons hblank]
  simp [splitAddress?, hletter]

/-! ### Numbers -/

namespace Numeral

variable (numeral : Numeral)

/-- A numeral is made of the characters that numbers are made of. -/
theorem isNumeralChar_of_mem : ∀ c ∈ numeral.chars, Decimal.isNumeralChar c :=
  Decimal.isNumeralChar_of_ofChars? numeral.read_eq

/-- There are no blanks in a numeral. -/
theorem not_isBlank_of_mem : ∀ c ∈ numeral.chars, Text.isBlank c = false :=
  fun c hc => Decimal.not_isBlank_of_isNumeralChar (numeral.isNumeralChar_of_mem c hc)

/-- A character that no number has is not in this one. -/
theorem not_mem_of_not_isNumeralChar {c : Char} (h : Decimal.isNumeralChar c = false) :
    c ∉ numeral.chars := by
  intro hmem
  rw [numeral.isNumeralChar_of_mem c hmem] at h
  cases h

/-- A number is no call, no address and no simple arithmetic. -/
theorem other_forms_eq_none :
    splitCall? numeral.chars = none ∧ CellRef.ofChars? numeral.chars = none ∧
      splitArithmetic? numeral.chars = none := by
  obtain ⟨c, rest, hchars, hletter⟩ := Decimal.head_of_ofChars? numeral.read_eq
  have hblank : Text.isBlank c = false := numeral.not_isBlank_of_mem c (by simp [hchars])
  refine ⟨splitCall?_of_noParenthesis (numeral.not_mem_of_not_isNumeralChar (by decide)), ?_, ?_⟩
  · rw [hchars]
    exact CellRef.ofChars?_eq_none_of_head hletter hblank rest
  · -- Simple arithmetic begins with a letter.
    cases harithmetic : splitArithmetic? numeral.chars with
    | none => rfl
    | some parts =>
        obtain ⟨d, more, hd, hsame⟩ := exists_letter_of_splitArithmetic? harithmetic
        obtain ⟨rfl, -⟩ := List.cons.inj (hchars.symm.trans hsame)
        rw [hletter] at hd
        cases hd

/-- A numeral is read as a number, and as nothing else. -/
theorem hasForm : HasForm numeral.chars numeral.form := by
  obtain ⟨hcall, hcell, harithmetic⟩ := numeral.other_forms_eq_none
  rw [form]
  cases hnumber : parseNumber numeral.chars with
  | some n => exact .number hcall hcell harithmetic hnumber
  | none => exact .formless hcall hcell harithmetic hnumber

/-- A numeral is not trimmed. -/
theorem trim_eq : Text.trim numeral.chars = numeral.chars :=
  Text.trim_of_noBlanks numeral.not_isBlank_of_mem

end Numeral

namespace UnsignedDecimal

variable (decimal : UnsignedDecimal)

/-- A row of digits begins with a digit. -/
theorem exists_digit : ∃ c rest, decimal.chars = c :: rest ∧ c.isDigit := by
  obtain ⟨c, rest, hwhole⟩ := List.exists_cons_of_ne_nil decimal.whole_ne_nil
  refine ⟨c, rest ++ if decimal.fraction.isEmpty then [] else '.' :: decimal.fraction, ?_, ?_⟩
  · rw [chars, hwhole, List.cons_append]
  · exact decimal.whole_isDigit c (by simp [hwhole])

/-- There are no blanks in a decimal. -/
theorem not_isBlank_of_mem : ∀ c ∈ decimal.chars, Text.isBlank c = false := by
  have hdigits : ∀ digits : List Char, (∀ c ∈ digits, c.isDigit) →
      ∀ c ∈ digits, Text.isBlank c = false :=
    fun digits h c hc => not_isBlank_of_isAlphanum (isAlphanum_of_isDigit (h c hc))
  have hpoint : Text.isBlank '.' = false := by decide
  rw [chars, List.forall_mem_append]
  refine ⟨hdigits _ decimal.whole_isDigit, ?_⟩
  split
  · simp
  · exact List.forall_mem_cons.mpr ⟨hpoint, hdigits _ decimal.fraction_isDigit⟩

/-- A decimal has the shape that the right side of arithmetic may have. -/
theorem isUnsignedDecimal_chars : isUnsignedDecimal decimal.chars := by
  obtain ⟨c, rest, hchars, hdigit⟩ := decimal.exists_digit
  have hhead : decimal.chars.head?.any Char.isDigit = true := by simp [hchars, hdigit]
  rw [isUnsignedDecimal, hhead, Bool.true_and]
  by_cases hfraction : decimal.fraction = []
  · -- Without a point the digits reach up to the end.
    have hdrop : decimal.chars.dropWhile Char.isDigit = [] := by
      rw [chars, hfraction]
      simpa using decimal.whole_isDigit
    rw [hdrop]
  · have hpoint : ('.' : Char).isDigit = false := rfl
    have hchars : decimal.chars = decimal.whole ++ '.' :: decimal.fraction := by
      simp [chars, hfraction]
    rw [hchars, (Text.cut_append decimal.whole_isDigit hpoint decimal.fraction).2]
    simpa [hfraction] using decimal.fraction_isDigit

end UnsignedDecimal

/-! ### Arguments -/

/-- A quoted text is closed by its own mark. -/
theorem Quotation.isArgument (q : Quotation) : IsArgument q.chars where
  ne_nil := by simp [Quotation.chars]
  trim_eq := by
    have hblank : Text.isBlank q.mark = false := by
      have hmark := q.isQuote
      simp only [FormulaTable.isQuote, Bool.or_eq_true, beq_iff_eq] at hmark
      rcases hmark with hmark | hmark <;> rw [hmark] <;> decide
    exact Text.trim_eq_self_of_ends q.inside (by simp) (by simp) (by simp [hblank])
      (by simp [hblank])
  closed := by
    have hclosed : Closed false (q.mark :: (q.inside ++ q.mark :: [])) :=
      .quoted q.isQuote q.mark_not_mem .nil
    simpa [Quotation.chars] using hclosed

/-- Without its marks, a quotation is what is inside. -/
theorem Quotation.unquote?_chars (q : Quotation) : unquote? q.chars = some q.inside :=
  unquote?_of_marks q.isQuote q.inside

/-- An argument that is no call stands between commas as it is, and is read as what it says. -/
theorem ArgumentLeaf.Written.isArgument_and_form {leaf : ArgumentLeaf} {text : List Char}
    (h : leaf.Written text) : IsArgument text ∧ Arg.ofChars text = leaf.form := by
  cases h with
  | cell htext =>
      refine ⟨⟨Address.ne_nil htext, Text.trim_of_noBlanks (Address.not_isBlank_of_mem htext),
        closed_of_isAlphanum (Address.isAlphanum_of_mem htext)⟩, ?_⟩
      exact Arg.ofChars_of_cell (Address.ofChars?_eq htext)
  | @range first last text text' before after hfirst hlast hbefore hafter =>
      constructor
      · refine ⟨by simp, Text.trim_eq_self_of_ends _ (Address.ne_nil hfirst) (Address.ne_nil hlast)
          (Address.not_isBlank_of_mem hfirst) (Address.not_isBlank_of_mem hlast), ?_⟩
        -- Addresses, blanks and the colon have nothing in them that would have to be closed.
        have hcolon : Closed false (before ++ ':' :: after) :=
          (closed_of_allBlank hbefore).append
            (.plain rfl (by decide) (by decide) (by simp) (closed_of_allBlank hafter))
        exact ((closed_of_isAlphanum (Address.isAlphanum_of_mem hfirst)).append hcolon).append
          (closed_of_isAlphanum (Address.isAlphanum_of_mem hlast))
      · -- Each corner is read with the blanks beside it.
        have hread : CellRef.ofChars? (text ++ before) = some first.cell := by
          have hpadded := CellRef.ofChars?_padded Text.allBlank_nil hbefore text
          rw [List.nil_append] at hpadded
          rw [hpadded, Address.ofChars?_eq hfirst]
        have hread' : CellRef.ofChars? (after ++ text') = some last.cell := by
          have hpadded := CellRef.ofChars?_padded hafter Text.allBlank_nil text'
          rw [List.append_nil] at hpadded
          rw [hpadded, Address.ofChars?_eq hlast]
        have hsplit : text ++ (before ++ ':' :: after) ++ text'
            = (text ++ before) ++ ':' :: (after ++ text') := by simp
        refine Arg.ofChars_of_range ?_
        rw [hsplit, CellRange.ofChars?,
          CellRange.splitAtColon?_append (CellRef.colon_not_mem hread)]
        simp only [Option.bind_eq_bind, Option.bind_some, hread, hread']
        rfl
  | @quoted quotation =>
      exact ⟨quotation.isArgument,
        (Arg.form_ofChars _).unique (.quoted quotation.unquote?_chars)⟩
  | @number numeral =>
      -- Of the forms of an argument, only the number and what comes after it are left.
      obtain ⟨hcall, hcell, -⟩ := numeral.other_forms_eq_none
      have hquoted : unquote? numeral.chars = none := by
        refine unquote?_of_noQuotes fun c hc => ?_
        by_contra hquote
        rw [Bool.not_eq_false, isQuote, Bool.or_eq_true, beq_iff_eq, beq_iff_eq] at hquote
        rcases hquote with rfl | rfl
        · exact numeral.not_mem_of_not_isNumeralChar (by decide) hc
        · exact numeral.not_mem_of_not_isNumeralChar (by decide) hc
      have hcolon : ':' ∉ numeral.chars := numeral.not_mem_of_not_isNumeralChar (by decide)
      obtain ⟨c, rest, hchars, -⟩ := Decimal.head_of_ofChars? numeral.read_eq
      have hmarks : Nesting.marks.any Decimal.isNumeralChar = false := by decide
      refine ⟨⟨by simp [hchars], numeral.trim_eq,
        .of_class hmarks numeral.isNumeralChar_of_mem⟩, ?_⟩
      show _ = match parseNumber numeral.chars with
        | some n => Arg.number n (String.ofList numeral.chars)
        | none => .other .formless (String.ofList numeral.chars)
      cases hnumber : parseNumber numeral.chars with
      | some n => exact (Arg.form_ofChars _).unique (.number hquoted hcall hcolon hcell hnumber)
      | none =>
          -- A number that is not finite is an argument of no form, which keeps its text.
          have hother := (Arg.form_ofChars _).unique (.other hquoted hcall hcolon hcell hnumber)
          have hform : Expr.ofBody numeral.chars = numeral.form := by
            have hbody := Expr.hasForm_ofBody numeral.chars
            rw [numeral.trim_eq] at hbody
            exact hbody.unique numeral.hasForm
          rw [hother, hform, Numeral.form, hnumber]

/-! ### Right sides -/

/-- The right side of simple arithmetic begins with no blank, has one of the two shapes that may
stand there, and is read as what it says. -/
theorem RightSide.Written.shape_and_form {right : RightSide} {text : List Char}
    (h : right.Written text) :
    text ≠ [] ∧ (∀ c ∈ text, Text.isBlank c = false) ∧
      (isAddressShaped text || isUnsignedDecimal text) ∧ Operand.ofChars text = right.form := by
  cases h with
  | cell htext =>
      refine ⟨Address.ne_nil htext, Address.not_isBlank_of_mem htext, ?_, ?_⟩
      · rw [Address.isAddressShaped_eq htext, Bool.true_or]
      · rw [Operand.ofChars, Address.ofChars?_eq htext]
        rfl
  | @number decimal =>
      obtain ⟨c, rest, hchars, hdigit⟩ := decimal.exists_digit
      refine ⟨by simp [hchars], decimal.not_isBlank_of_mem, ?_, ?_⟩
      · rw [decimal.isUnsignedDecimal_chars, Bool.or_true]
      · -- A number begins with a digit, so it is not read as an address.
        have hblank : Text.isBlank c = false := decimal.not_isBlank_of_mem c (by simp [hchars])
        have hnone : CellRef.ofChars? decimal.chars = none := by
          rw [hchars]
          exact CellRef.ofChars?_eq_none_of_head (not_isAlpha_of_isDigit hdigit) hblank rest
        rw [Operand.ofChars, hnone]
        rfl

end FormulaTable
