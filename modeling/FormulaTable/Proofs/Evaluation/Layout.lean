import FormulaTable.Evaluation.Context
import FormulaTable.Proofs.Evaluation.PathIndependence
import FormulaTable.Proofs.Formula.Leaf

/-!
# `FormulaTable.Proofs.Evaluation.Layout`: layout and letter case do not matter

A `FormulaTree` is what a formula says, without the way in which it is written: which function is
called, which cells are referred to, which operator stands between which operands.
`FormulaTree.Written` relates it to the texts that say it. They differ in the case of the letters in
names and addresses, and in blanks: at the ends, around arguments, around the colon of a range and
around an operator.

All these texts are read as the same expression, `FormulaTree.form` (`FormulaTree.ofFormula_eq`), so
they are evaluated alike in every context. For the calls inside a formula this is
`CallTree.ReadsByLevel.read_written`, and for the other arguments
`ArgumentLeaf.Written.isArgument_and_form`. What is left is the outermost form
(`FormulaTree.Written.isBody`).
-/

set_option autoImplicit false

namespace FormulaTable

/-! ## What a formula says -/

/-- What a formula says. A call may have any name, one that no function has too. -/
inductive FormulaTree where
  | call (name : List Char) (arguments : List (CallTree ArgumentLeaf))
  | cell (address : Address)
  | arithmetic (left : Address) (operator : Operator) (right : RightSide)
  | number (numeral : Numeral)

/-! ## How it may be written -/

/-- The texts that a formula may be written as, without blanks at the ends. Blanks may stand around
an operator and around the arguments of a call. -/
inductive FormulaTree.Written : FormulaTree → List Char → Prop where
  | call {name : List Char} {arguments : List (CallTree ArgumentLeaf)} {text : List Char}
    (hcall : (CallTree.call name arguments).Written SameLetters ArgumentLeaf.Written text) :
    Written (.call name arguments) text
  | cell {address : Address} {text : List Char} (htext : SameLetters address.chars text) :
    Written (.cell address) text
  | arithmetic {left : Address} {operator : Operator} {right : RightSide} {mark : Char}
    {text text' before after : List Char} (hleft : SameLetters left.chars text)
    (hmark : Operator.ofChar? mark = some operator) (hright : right.Written text')
    (hbefore : Text.AllBlank before) (hafter : Text.AllBlank after) :
    Written (.arithmetic left operator right) (text ++ (before ++ mark :: after) ++ text')
  | number {numeral : Numeral} : Written (.number numeral) numeral.chars

/-- A formula that says what the tree says, with or without the `=` in front, and with blanks at the
ends or none. -/
def FormulaTree.IsSaidBy (tree : FormulaTree) (formula : String) : Prop :=
  ∃ before text after, Text.AllBlank before ∧ Text.AllBlank after ∧ tree.Written text ∧
    (formula.toList = before ++ text ++ after ∨ formula.toList = '=' :: (before ++ text ++ after))

/-! ## How it is read -/

/-- The form of a call, with the forms of its arguments. -/
def callForm (name : List Char) (arguments : List Arg) : Arg :=
  .call (Builtin.ofName? name) arguments

/-- The form of what a formula says. -/
def FormulaTree.form : FormulaTree → Expr
  | .call name arguments =>
    .call (Builtin.ofName? name) (CallTree.foldAll ArgumentLeaf.form callForm arguments)
  | .cell address => .cell address.cell
  | .arithmetic left operator right => .arithmetic (.cell left.cell) operator right.form
  | .number numeral => numeral.form

/-- Arguments are read level by level, and names in capitals. -/
theorem readsByLevel_form :
    CallTree.ReadsByLevel SameLetters ArgumentLeaf.Written Arg.ofChars ArgumentLeaf.form
      callForm where
  read_leaf := ArgumentLeaf.Written.isArgument_and_form
  read_call := by
    intro text name inner hcall
    exact (Arg.form_ofChars text).unique (.call (trim_of_splitCall? hcall).2.2 hcall)
  call_name := by
    intro name written arguments hwritten hname
    rw [callForm, callForm, Builtin.ofName?_of_sameLetters hwritten.isAlphanum hname.symm]

/-! ### Simple arithmetic -/

/-- Simple arithmetic is taken apart at its operator, past the blanks around it. -/
theorem splitArithmetic?_append {c : CellRef} {letters digits before after right : List Char}
    {mark : Char} {operator : Operator} (hleft : c.Spelling letters digits)
    (hmark : Operator.ofChar? mark = some operator) (hbefore : Text.AllBlank before)
    (hafter : Text.AllBlank after) (hright : ∀ d ∈ right, Text.isBlank d = false)
    (hshaped : isAddressShaped right || isUnsignedDecimal right) :
    splitArithmetic? (letters ++ digits ++ (before ++ mark :: after) ++ right)
      = some (letters ++ digits, operator, right) := by
  obtain ⟨hother, hblank, -⟩ := Operator.mark_of_ofChar? hmark
  obtain ⟨d, more, hd⟩ := List.exists_cons_of_ne_nil hleft.digits_ne_nil
  have hdigit : d.isAlpha = false := by
    have hmem : d ∈ digits := by simp [hd]
    exact not_isAlpha_of_isDigit (hleft.isDigit d hmem)
  -- Behind the digits there is a blank or the operator.
  obtain ⟨e, behind, he, hbehind⟩ : ∃ e behind,
      before ++ mark :: (after ++ right) = e :: behind ∧ e.isDigit = false := by
    cases before with
    | nil =>
        rw [Char.isAlphanum, Bool.or_eq_false_iff] at hother
        exact ⟨mark, after ++ right, rfl, hother.2⟩
    | cons e blanks =>
        refine ⟨e, blanks ++ mark :: (after ++ right), rfl, ?_⟩
        by_contra hdigit
        rw [Bool.not_eq_false] at hdigit
        have hblank := hbefore e List.mem_cons_self
        rw [not_isBlank_of_isAlphanum (isAlphanum_of_isDigit hdigit)] at hblank
        cases hblank
  have hbody : letters ++ digits ++ (before ++ mark :: after) ++ right
      = letters ++ d :: (more ++ e :: behind) := by
    simp [hd, ← he]
  obtain ⟨htake, hdrop⟩ := Text.cut_append hleft.isAlpha hdigit (more ++ e :: behind)
  rw [← List.cons_append, ← hd] at htake hdrop hbody
  obtain ⟨htake', hdrop'⟩ := Text.cut_append hleft.isDigit hbehind behind
  -- The blanks in front of the operator are dropped, and then those behind it.
  have hstart : Text.trimStart (e :: behind) = mark :: (after ++ right) := by
    rw [← he, Text.trimStart_append_of_allBlank hbefore]
    simp [Text.trimStart, hblank]
  have hrest : Text.trimStart (after ++ right) = right := by
    rw [Text.trimStart_append_of_allBlank hafter]
    cases right with
    | nil => rfl
    | cons r rest => simp [Text.trimStart, hright r List.mem_cons_self]
  simp only [splitArithmetic?, hbody, htake, hdrop, htake', hdrop', hstart, hrest, hmark,
    hleft.isAddressShaped, hshaped, Bool.and_self, if_true]

/-! ### Formulas -/

/-- A text without blanks around it, and without `=` in front, that has a form. -/
structure IsBody (text : List Char) (e : Expr) : Prop where
  begins : ∃ c rest, text = c :: rest ∧ c ≠ '='
  trim_eq : Text.trim text = text
  hasForm : HasForm text e

/-- An address begins with a letter, and no letter is the `=` in front of a formula. -/
theorem Address.begins {address : Address} {text : List Char} (h : SameLetters address.chars text)
    (more : List Char) : ∃ c rest, text ++ more = c :: rest ∧ c ≠ '=' := by
  obtain ⟨letters, digits, rfl, hspelling⟩ := exists_spelling h
  obtain ⟨c, rest, hletters⟩ := List.exists_cons_of_ne_nil hspelling.letters_ne_nil
  refine ⟨c, rest ++ digits ++ more, by simp [hletters], ?_⟩
  exact ne_of_isAlpha (hspelling.isAlpha c (by simp [hletters])) (by decide)

/-- Every text of a formula has the form of what it says. -/
theorem FormulaTree.Written.isBody {tree : FormulaTree} {text : List Char} (h : tree.Written text) :
    IsBody text tree.form := by
  cases h with
  | @call name arguments _ hcall =>
      cases hcall with
      | @call _ written inner _ texts hwritten hname htrees hinner =>
          -- The arguments are read one level below, whatever stands around each of them.
          obtain ⟨hargs, hread⟩ := readsByLevel_form.read_allWritten htrees
          have hsplit := splitCall?_callText hwritten (hinner.closed hargs)
          obtain ⟨c, rest, hletter, -, htext⟩ := eq_of_splitCall? hsplit
          refine ⟨⟨c, _, htext, ne_of_isAlpha hletter (by decide)⟩,
            (trim_of_splitCall? hsplit).1, ?_⟩
          have hform := HasForm.call hsplit
          rwa [arguments_of_listed hinner hargs, hread,
            ← Builtin.ofName?_of_sameLetters hwritten.isAlphanum hname.symm] at hform
  | @cell address _ htext =>
      have hparenthesis : '(' ∉ text := fun hmem =>
        absurd (Address.isAlphanum_of_mem htext '(' hmem) (by decide)
      have hbegins := Address.begins htext []
      rw [List.append_nil] at hbegins
      exact ⟨hbegins, Text.trim_of_noBlanks (Address.not_isBlank_of_mem htext),
        .cell (splitCall?_of_noParenthesis hparenthesis) (Address.ofChars?_eq htext)⟩
  | @arithmetic left operator right mark text text' before after hleft hmark hright hbefore
      hafter =>
      -- Each side is read by itself; the blanks around the operator belong to neither.
      obtain ⟨hne, hblank, hshaped, hread⟩ := hright.shape_and_form
      have hbegins := Address.begins hleft (before ++ mark :: after ++ text')
      rw [← List.append_assoc] at hbegins
      refine ⟨hbegins, Text.trim_eq_self_of_ends _ (Address.ne_nil hleft) hne
        (Address.not_isBlank_of_mem hleft) hblank, ?_⟩
      have hleft_read : Operand.ofChars text = .cell left.cell := by
        rw [Operand.ofChars, Address.ofChars?_eq hleft]
      obtain ⟨letters, digits, rfl, hspelling⟩ := Address.exists_spelling hleft
      have hform := HasForm.arithmetic
        (splitArithmetic?_append hspelling hmark hbefore hafter hblank hshaped)
      rwa [hleft_read, hread] at hform
  | @number numeral =>
      obtain ⟨c, rest, hchars, -⟩ := Decimal.head_of_ofChars? numeral.read_eq
      have hequals : '=' ∉ numeral.chars := numeral.not_mem_of_not_isNumeralChar (by decide)
      refine ⟨⟨c, rest, hchars, ?_⟩, numeral.trim_eq, numeral.hasForm⟩
      rintro rfl
      exact hequals (by simp [hchars])

/-- Blanks around a text with a form do not matter, nor does the `=` in front. -/
theorem IsBody.ofFormula_eq {text before after : List Char} {e : Expr} {formula : String}
    (h : IsBody text e) (hbefore : Text.AllBlank before) (hafter : Text.AllBlank after)
    (hformula : formula.toList = before ++ text ++ after ∨
      formula.toList = '=' :: (before ++ text ++ after)) : Expr.ofFormula formula = e := by
  have hbody : bodyOf formula.toList = before ++ text ++ after := by
    rcases hformula with hformula | hformula
    · obtain ⟨c, rest, rfl, hc⟩ := h.begins
      rw [hformula]
      -- Nothing is taken off the front: the text begins with a blank or as it does itself.
      cases before with
      | nil =>
          rw [List.nil_append, List.cons_append, bodyOf]
          simpa using hc
      | cons d blanks =>
          have hd : d ≠ '=' := by
            rintro rfl
            exact absurd (hbefore '=' List.mem_cons_self) (by decide)
          rw [List.cons_append, List.cons_append, bodyOf]
          simpa using hd
    · rw [hformula, bodyOf]
  have hform := Expr.hasForm_ofBody (before ++ text ++ after)
  rw [Text.trim_padded hbefore hafter, h.trim_eq] at hform
  rw [Expr.ofFormula, hbody]
  exact hform.unique h.hasForm

/-- Every formula that says what the tree says is read as the form of the tree. -/
theorem FormulaTree.ofFormula_eq {tree : FormulaTree} {formula : String}
    (h : tree.IsSaidBy formula) :
    Expr.ofFormula formula = tree.form := by
  obtain ⟨before, text, after, hbefore, hafter, htext, hformula⟩ := h
  exact htext.isBody.ofFormula_eq hbefore hafter hformula

/-- Layout and the case of letters do not matter. Formulas that say the same, that is, which differ
at most in the case of the letters in the names of functions and in addresses, and in the blanks at
their ends, around arguments, around the colon of a range and around an operator, have the same
outcome in every context, be it a value or a fault: the outcome of what they say. -/
theorem Context.evaluate_eq_of_isSaidBy {tree : FormulaTree} {formula formula' : String}
    (h : tree.IsSaidBy formula) (h' : tree.IsSaidBy formula') (ctx : Context) :
    ctx.evaluate formula = ctx.evaluate formula' ∧
      ctx.evaluate formula = tree.form.eval ctx.surroundings := by
  have hsaid : ∀ {f : String}, tree.IsSaidBy f →
      ctx.evaluate f = tree.form.eval ctx.surroundings := by
    intro f hf
    rw [evaluate, FormulaTree.ofFormula_eq hf]
  exact ⟨(hsaid h).trans (hsaid h').symm, hsaid h⟩

/-- Two ways to write one formula, with a range, a call inside the call and a quoted text in it:
once without blanks and once with blanks wherever they may stand, and small letters. -/
theorem Context.evaluate_of_spaced_call :
    let ctx := (Grid.ofRows [["2", "5"], ["=A1", ""]]).context .morning
    let corner : Address := ⟨['A', '1'], ⟨0, 0⟩, by decide, by decide⟩
    let opposite : Address := ⟨['B', '2'], ⟨1, 1⟩, by decide, by decide⟩
    let three : Numeral := ⟨['3'], ⟨false, 3, 0⟩, by decide⟩
    let quoted : Quotation := ⟨'\x27', [',', ' ', '('], by decide, by decide⟩
    let tree : FormulaTree := .call "CONCAT".toList [.leaf (.range corner opposite),
      .call "ABS".toList [.leaf (.number three)], .leaf (.quoted quoted)]
    let formula := "=CONCAT(A1:B2,ABS(3),', (')"
    let formula' := " concat( a1 :\nb2 ,Abs( 3 ) , ', (' )\t"
    tree.IsSaidBy formula ∧ tree.IsSaidBy formula' ∧
      ctx.evaluate formula = ctx.evaluate formula' ∧
      ctx.evaluate formula = .ok (.text "2523, (") := by
  intro ctx corner opposite three quoted tree formula formula'
  -- The two layouts of the tree, leaf by leaf; the blanks of each list are written at `Listed`.
  have hcapitals : tree.IsSaidBy formula := by
    have hrange : ArgumentLeaf.Written (.range corner opposite) "A1:B2".toList :=
      @ArgumentLeaf.Written.range _ _ ['A', '1'] ['B', '2'] [] [] rfl rfl (by decide) (by decide)
    have habs : CallTree.Written SameLetters ArgumentLeaf.Written
        (.call "ABS".toList [.leaf (.number three)]) (callText "ABS".toList "3".toList) :=
      .call (by decide) rfl (.cons (.leaf .number) .nil)
        (@Listed.last [] _ [] (by decide) (by decide))
    exact ⟨[], callText "CONCAT".toList "A1:B2,ABS(3),', ('".toList, [], by decide, by decide,
      .call (.call (by decide) rfl (.cons (.leaf hrange) (.cons habs (.cons (.leaf .quoted) .nil)))
        (@Listed.more [] _ [] _ _ _ (by decide) (by decide) (@Listed.more [] _ [] _ _ _ (by decide)
          (by decide) (@Listed.last [] _ [] (by decide) (by decide))))), .inr (by decide)⟩
  have hsmall : tree.IsSaidBy formula' := by
    have hrange : ArgumentLeaf.Written (.range corner opposite) "a1 :\nb2".toList :=
      @ArgumentLeaf.Written.range _ _ ['a', '1'] ['b', '2'] [' '] ['\n'] rfl rfl (by decide)
        (by decide)
    have habs : CallTree.Written SameLetters ArgumentLeaf.Written
        (.call "ABS".toList [.leaf (.number three)]) (callText "Abs".toList " 3 ".toList) :=
      .call (by decide) rfl (.cons (.leaf .number) .nil)
        (@Listed.last [' '] _ [' '] (by decide) (by decide))
    exact ⟨[' '], callText "concat".toList " a1 :\nb2 ,Abs( 3 ) , ', (' ".toList, ['\t'], by decide,
      by decide, .call (.call (by decide) rfl
        (.cons (.leaf hrange) (.cons habs (.cons (.leaf .quoted) .nil)))
        (@Listed.more [' '] _ [' '] _ _ _ (by decide) (by decide) (@Listed.more [] _ [' '] _ _ _
          (by decide) (by decide) (@Listed.last [' '] _ [' '] (by decide) (by decide))))),
      .inl (by decide)⟩
  obtain ⟨hsame, -⟩ := evaluate_eq_of_isSaidBy hcapitals hsmall ctx
  have hvalue : ctx.evaluate formula = .ok (.text "2523, (") :=
    eq_ok_of_toOption (by decide +kernel)
  exact ⟨hcapitals, hsmall, hsame, hvalue⟩

end FormulaTable
