import FormulaTable.Proofs.Address.Cell

/-!
# `FormulaTable.Proofs.Formula.Argument`: the form of an argument

The forms of an argument are tried one after the other. `ArgumentForm` says which form a text has,
and `Arg.form_ofChars` that this is the form that is found.

Addresses and ranges have no other form: there is neither a quotation mark nor a parenthesis in
them. So a text that is read as an address is that cell as an argument (`Arg.ofChars_of_cell`), and
a text that is read as a range is that range (`Arg.ofChars_of_range`).
-/

set_option autoImplicit false

namespace FormulaTable

/-- The forms of an argument, each with what keeps the text from having an earlier one. -/
inductive ArgumentForm (text : List Char) : Arg → Prop where
  | quoted {inner : List Char} (hquoted : unquote? text = some inner) :
    ArgumentForm text (.plain (String.ofList inner))
  | call {name inner : List Char} (hquoted : unquote? text = none)
    (hcall : splitCall? text = some (name, inner)) :
    ArgumentForm text (.call (Builtin.ofName? name) ((arguments inner).map Arg.ofChars))
  | range {r : CellRange} (hquoted : unquote? text = none) (hcall : splitCall? text = none)
    (hcolon : ':' ∈ text) (hrange : CellRange.ofChars? text = some r) :
    ArgumentForm text (.range r)
  | noRange (hquoted : unquote? text = none) (hcall : splitCall? text = none)
    (hcolon : ':' ∈ text) (hrange : CellRange.ofChars? text = none) :
    ArgumentForm text (.plain (String.ofList text))
  | cell {c : CellRef} (hquoted : unquote? text = none) (hcall : splitCall? text = none)
    (hcolon : ':' ∉ text) (hcell : CellRef.ofChars? text = some c) : ArgumentForm text (.cell c)
  | number {n : Float} (hquoted : unquote? text = none) (hcall : splitCall? text = none)
    (hcolon : ':' ∉ text) (hcell : CellRef.ofChars? text = none)
    (hnumber : parseNumber text = some n) : ArgumentForm text (.number n (String.ofList text))
  | other (hquoted : unquote? text = none) (hcall : splitCall? text = none)
    (hcolon : ':' ∉ text) (hcell : CellRef.ofChars? text = none)
    (hnumber : parseNumber text = none) :
    ArgumentForm text (.other (Expr.ofBody text) (String.ofList text))

/-- The form that is found for an argument is one of its text. -/
theorem Arg.form_ofChars (text : List Char) : ArgumentForm text (Arg.ofChars text) := by
  -- The forms in the order in which they are tried; what was refused before is kept as a hypothesis
  -- of each later form.
  rw [Arg.ofChars]
  split
  · next inner hquoted => exact .quoted hquoted
  · next hquoted =>
      split
      · next name inner hcall =>
          rw [List.attach_map_val]
          exact .call hquoted hcall
      · next hcall =>
          split
          · next hcolon =>
              have hmem : ':' ∈ text := by simpa using hcolon
              split
              · next r hrange => exact .range hquoted hcall hmem hrange
              · next hrange => exact .noRange hquoted hcall hmem hrange
          · next hcolon =>
              have hmem : ':' ∉ text := by simpa using hcolon
              split
              · next c hcell => exact .cell hquoted hcall hmem hcell
              · next hcell =>
                  split
                  · next n hnumber => exact .number hquoted hcall hmem hcell hnumber
                  · next hnumber => exact .other hquoted hcall hmem hcell hnumber

/-- A text has one form. -/
theorem ArgumentForm.unique {text : List Char} {a b : Arg} (ha : ArgumentForm text a)
    (hb : ArgumentForm text b) : a = b := by
  cases ha <;> cases hb <;> simp_all

/-! ## Addresses and ranges -/

section
variable {text : List Char}

/-- A text without quotation marks is not quoted. -/
theorem unquote?_of_noQuotes (h : ∀ c ∈ text, isQuote c = false) : unquote? text = none := by
  cases text with
  | nil => rfl
  | cons c rest => simp [unquote?, h c List.mem_cons_self]

/-- The marks around a text are taken off, whatever the text is. -/
theorem unquote?_of_marks {mark : Char} (hmark : isQuote mark) (inner : List Char) :
    unquote? (mark :: (inner ++ [mark])) = some inner := by
  simp [unquote?, hmark]

/-- A text without parentheses is no call. -/
theorem splitCall?_of_noParenthesis (h : '(' ∉ text) : splitCall? text = none := by
  cases hcall : splitCall? text with
  | none => rfl
  | some parts =>
      obtain ⟨name, inner⟩ := parts
      obtain ⟨c, rest, -, -, rfl⟩ := eq_of_splitCall? hcall
      simp at h

/-- Letters, digits, blanks and colons are neither quotation marks nor parentheses. -/
theorem not_isQuote_and_ne {c : Char} (h : (Text.isBlank c ∨ c.isAlphanum) ∨ c = ':') :
    isQuote c = false ∧ c ≠ '(' := by
  have hother : ∀ d : Char, Text.isBlank d = false → d.isAlphanum = false → d ≠ ':' → c ≠ d := by
    rintro d hblank halphanum hcolon rfl
    simp [hblank, halphanum, hcolon] at h
  have hdouble : c ≠ '\x22' := hother _ (by decide) (by decide) (by decide)
  have hsingle : c ≠ '\x27' := hother _ (by decide) (by decide) (by decide)
  exact ⟨by simp [isQuote, hdouble, hsingle], hother _ (by decide) (by decide) (by decide)⟩

/-- A text of letters, digits, blanks and colons is neither quoted nor a call. -/
theorem unquote?_and_splitCall? (h : ∀ c ∈ text, (Text.isBlank c ∨ c.isAlphanum) ∨ c = ':') :
    unquote? text = none ∧ splitCall? text = none :=
  ⟨unquote?_of_noQuotes fun c hc => (not_isQuote_and_ne (h c hc)).1,
    splitCall?_of_noParenthesis fun hmem => (not_isQuote_and_ne (h _ hmem)).2 rfl⟩

/-- As an argument, a text that is read as an address is the cell. -/
theorem Arg.ofChars_of_cell {c : CellRef} (h : CellRef.ofChars? text = some c) :
    Arg.ofChars text = .cell c := by
  obtain ⟨hquoted, hcall⟩ : unquote? text = none ∧ splitCall? text = none :=
    unquote?_and_splitCall? fun d hd => Or.inl (CellRef.blank_or_alphanum h hd)
  exact (Arg.form_ofChars text).unique (.cell hquoted hcall (CellRef.colon_not_mem h) h)

/-- As an argument, a text that is read as a range is the range. -/
theorem Arg.ofChars_of_range {r : CellRange} (h : CellRange.ofChars? text = some r) :
    Arg.ofChars text = .range r := by
  obtain ⟨before, after, a, b, htext, ha, hb, -⟩ := CellRange.corners_of_ofChars? h
  have hmem : ':' ∈ text := by simp [htext]
  have hchars : ∀ d ∈ text, (Text.isBlank d ∨ d.isAlphanum) ∨ d = ':' := by
    intro d hd
    rw [htext, List.mem_append, List.mem_cons] at hd
    rcases hd with hd | rfl | hd
    · exact Or.inl (CellRef.blank_or_alphanum ha hd)
    · exact Or.inr rfl
    · exact Or.inl (CellRef.blank_or_alphanum hb hd)
  obtain ⟨hquoted, hcall⟩ := unquote?_and_splitCall? hchars
  exact (Arg.form_ofChars text).unique (.range hquoted hcall hmem h)

end

/-- As an argument, the address of a cell below the last index is the cell. -/
theorem Arg.ofString_toText {c : CellRef} (hrow : c.row + 1 < indexLimit)
    (hcol : c.col + 1 < indexLimit) : Arg.ofString c.toText = .cell c := by
  rw [Arg.ofString, CellRef.toText, String.toList_ofList]
  exact Arg.ofChars_of_cell (CellRef.ofChars?_chars hrow hcol)

end FormulaTable
