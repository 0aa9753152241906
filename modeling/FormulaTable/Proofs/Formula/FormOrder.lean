import FormulaTable.Proofs.Formula.Leaf

/-!
# `FormulaTable.Proofs.Formula.FormOrder`: the order in which forms are tried

A formula is tried for four forms, and has no value if it has none of them. No text has two of the
forms (`Form.eq_of_fits`): a call begins with a letter and has a parenthesis in it, an address has
neither operators nor parentheses, simple arithmetic begins with a letter and has an operator in it,
and a number does not begin with a letter.

`Expr.ofBodyIn` tries the forms in any order, in a formula and in all that stands inside it. By
`Expr.ofBodyIn_eq` the order makes no difference.
-/

set_option autoImplicit false

namespace FormulaTable

/-- The forms that a formula is tried for. -/
inductive Form where
  | call
  | cell
  | arithmetic
  | number
  deriving DecidableEq, Repr

/-- Whether a text has a form. -/
def Form.fits (form : Form) (body : List Char) : Bool :=
  match form with
  | .call => (splitCall? body).isSome
  | .cell => (CellRef.ofChars? body).isSome
  | .arithmetic => (splitArithmetic? body).isSome
  | .number => (parseNumber body).isSome

/-! ## No text has two forms -/

section
variable {body : List Char}

/-- A call is no address. -/
theorem ofChars?_of_splitCall? {parts : List Char × List Char} (h : splitCall? body = some parts) :
    CellRef.ofChars? body = none := by
  obtain ⟨name, inner⟩ := parts
  obtain ⟨c, rest, -, -, hbody⟩ := eq_of_splitCall? h
  cases hcell : CellRef.ofChars? body with
  | none => rfl
  | some c =>
      have hmem : '(' ∈ body := by simp [hbody]
      exact absurd (CellRef.blank_or_alphanum hcell hmem) (by decide)

/-- A number without blanks around it has no other form. -/
theorem other_forms_of_parseNumber (htrim : Text.trim body = body) {n : Float}
    (h : parseNumber body = some n) :
    splitCall? body = none ∧ CellRef.ofChars? body = none ∧ splitArithmetic? body = none := by
  rw [parseNumber, Option.bind_eq_bind, Option.bind_eq_some_iff] at h
  obtain ⟨decimal, hdecimal, -⟩ := h
  rw [htrim] at hdecimal
  exact (Numeral.mk body decimal hdecimal).other_forms_eq_none

/-- Text without blanks around it has one form at most. -/
theorem Form.eq_of_fits (htrim : Text.trim body = body) {form other : Form} (hform : form.fits body)
    (hother : other.fits body) : form = other := by
  have hcall : (splitCall? body).isSome → CellRef.ofChars? body = none := fun h =>
    ofChars?_of_splitCall? (Option.eq_some_of_isSome h)
  have harithmetic : (splitArithmetic? body).isSome →
      splitCall? body = none ∧ CellRef.ofChars? body = none ∧ parseNumber body = none := fun h =>
    have hsome := Option.eq_some_of_isSome h
    ⟨splitCall?_of_splitArithmetic? hsome, ofChars?_of_splitArithmetic? hsome,
      parseNumber_of_splitArithmetic? hsome⟩
  have hnumber : (parseNumber body).isSome → splitCall? body = none ∧ CellRef.ofChars? body = none ∧
      splitArithmetic? body = none := fun h =>
    other_forms_of_parseNumber htrim (Option.eq_some_of_isSome h)
  cases form <;> cases other <;> simp_all [fits]

end

/-! ## Trying the forms in some order -/

mutual

/-- Finds the form of a formula, with blanks around it, by trying the forms in the given order. -/
def Expr.ofBodyIn (order : List Form) (body : List Char) : Expr :=
  let found := order.findSome? fun form =>
    match form with
    | .call =>
      match _h : splitCall? (Text.trim body) with
      | some (name, inner) =>
        some (.call (Builtin.ofName? name)
          ((arguments inner).attach.map fun piece => Arg.ofCharsIn order piece.val))
      | none => none
    | .cell => (CellRef.ofChars? (Text.trim body)).map Expr.cell
    | .arithmetic => (splitArithmetic? (Text.trim body)).map fun (left, operator, right) =>
      .arithmetic (Operand.ofChars left) operator (Operand.ofChars right)
    | .number => (parseNumber (Text.trim body)).map Expr.number
  found.getD .formless
termination_by 2 * body.length
decreasing_by
  have := length_lt_of_splitCall? _h
  have := Text.length_trim_le body
  have := length_le_of_mem_arguments piece.property
  omega

/-- Finds the form of an argument. What is a formula in it is tried for the forms in the given
order. -/
def Arg.ofCharsIn (order : List Form) (text : List Char) : Arg :=
  match unquote? text with
  | some inner => .plain (String.ofList inner)
  | none =>
    match _h : splitCall? text with
    | some (name, inner) =>
      .call (Builtin.ofName? name)
        ((arguments inner).attach.map fun piece => Arg.ofCharsIn order piece.val)
    | none =>
      if text.contains ':' then
        match CellRange.ofChars? text with
        | some r => .range r
        | none => .plain (String.ofList text)
      else
        match CellRef.ofChars? text with
        | some c => .cell c
        | none =>
          match parseNumber text with
          | some n => .number n (String.ofList text)
          | none => .other (Expr.ofBodyIn order text) (String.ofList text)
termination_by 2 * text.length + 1
decreasing_by
  · have := length_lt_of_splitCall? _h
    have := length_le_of_mem_arguments piece.property
    omega
  · omega

end

/-- What a text is as a formula of the given form, if it has this form. -/
def Form.read (readArgument : List Char → Arg) (body : List Char) : Form → Option Expr
  | .call => (splitCall? body).map fun (name, inner) =>
    .call (Builtin.ofName? name) ((arguments inner).map readArgument)
  | .cell => (CellRef.ofChars? body).map .cell
  | .arithmetic => (splitArithmetic? body).map fun (left, operator, right) =>
    .arithmetic (Operand.ofChars left) operator (Operand.ofChars right)
  | .number => (parseNumber body).map .number

/-- A body is read as a form exactly if it fits the form. -/
theorem Form.isSome_read (readArgument : List Char → Arg) (body : List Char) (form : Form) :
    (form.read readArgument body).isSome = form.fits body := by
  cases form <;> simp [read, fits]

/-- The first form that fits is the one that is found. -/
theorem Expr.ofBodyIn_eq_findSome? (order : List Form) (body : List Char) :
    ofBodyIn order body
      = (order.findSome? (Form.read (Arg.ofCharsIn order) (Text.trim body))).getD .formless := by
  rw [ofBodyIn]
  congr 2
  funext form
  cases form with
  | call =>
      simp only [Form.read]
      split
      · next name inner hcall => rw [hcall, List.attach_map_val]; rfl
      · next hcall => rw [hcall]; rfl
  | cell => rfl
  | arithmetic => rfl
  | number => rfl

section
variable {body : List Char}

/-- What a text is read as is its form. -/
theorem Form.hasForm_of_read (htrim : Text.trim body = body) {form : Form} {e : Expr}
    (h : form.read Arg.ofChars body = some e) : HasForm body e := by
  -- A stage that reads the text fits it, so no other stage does: this replaces the order of the
  -- stages.
  have hfits : form.fits body := by
    rw [← form.isSome_read Arg.ofChars body, h]
    rfl
  have hother : ∀ other : Form, other ≠ form → other.fits body = false := by
    intro other hne
    rw [← Bool.not_eq_true]
    exact fun hother => hne (eq_of_fits htrim hother hfits)
  cases form with
  | call =>
      obtain ⟨⟨name, inner⟩, hcall, rfl⟩ := Option.map_eq_some_iff.mp h
      exact .call hcall
  | cell =>
      obtain ⟨c, hcell, rfl⟩ := Option.map_eq_some_iff.mp h
      exact .cell (by simpa [fits] using hother .call) hcell
  | arithmetic =>
      obtain ⟨⟨left, operator, right⟩, harithmetic, rfl⟩ := Option.map_eq_some_iff.mp h
      exact .arithmetic harithmetic
  | number =>
      obtain ⟨n, hnumber, rfl⟩ := Option.map_eq_some_iff.mp h
      exact .number (by simpa [fits] using hother .call) (by simpa [fits] using hother .cell)
        (by simpa [fits] using hother .arithmetic) hnumber

/-- A text that no form fits has none. -/
theorem Form.hasForm_formless (h : ∀ form : Form, form.fits body = false) :
    HasForm body .formless :=
  .formless (by simpa [fits] using h .call) (by simpa [fits] using h .cell)
    (by simpa [fits] using h .arithmetic) (by simpa [fits] using h .number)

/-- Whatever the order in which all forms are tried, what is found is the form of the text. -/
theorem Form.hasForm_findSome? {order : List Form} (horder : ∀ form, form ∈ order)
    (htrim : Text.trim body = body) :
    HasForm body ((order.findSome? (Form.read Arg.ofChars body)).getD .formless) := by
  cases hfound : order.findSome? (Form.read Arg.ofChars body) with
  | some e =>
      obtain ⟨form, -, hread⟩ := List.exists_of_findSome?_eq_some hfound
      exact hasForm_of_read htrim hread
  | none =>
      refine hasForm_formless fun form => ?_
      have hread := List.findSome?_eq_none_iff.mp hfound form (horder form)
      rw [← form.isSome_read Arg.ofChars body, hread]
      rfl

end

mutual

/-- The order in which the forms are tried makes no difference, provided that all of them are. -/
theorem Expr.ofBodyIn_eq {order : List Form} (horder : ∀ form, form ∈ order) (body : List Char) :
    Expr.ofBodyIn order body = Expr.ofBody body := by
  have htrim := Text.trim_trim body
  -- What stands inside a call is shorter, and so it is read alike.
  have hread : Form.read (Arg.ofCharsIn order) (Text.trim body)
      = Form.read Arg.ofChars (Text.trim body) := by
    funext form
    cases form with
    | call =>
        rw [Form.read, Form.read]
        refine Option.map_congr ?_
        rintro ⟨name, inner⟩ hcall
        refine congrArg (Expr.call _) (List.map_congr_left fun piece hpiece => ?_)
        have := length_lt_of_splitCall? hcall
        have := Text.length_trim_le body
        have := length_le_of_mem_arguments hpiece
        exact Arg.ofCharsIn_eq horder piece
    | cell => rfl
    | arithmetic => rfl
    | number => rfl
  rw [Expr.ofBodyIn_eq_findSome?, hread]
  exact (Form.hasForm_findSome? horder htrim).unique (Expr.hasForm_ofBody body)
termination_by 2 * body.length

/-- The same holds of an argument, and of what stands inside it. -/
theorem Arg.ofCharsIn_eq {order : List Form} (horder : ∀ form, form ∈ order) (text : List Char) :
    Arg.ofCharsIn order text = Arg.ofChars text := by
  -- It is enough that what is found has a form of the argument, for an argument has only one.
  suffices hform : ArgumentForm text (Arg.ofCharsIn order text) from
    hform.unique (Arg.form_ofChars text)
  rw [Arg.ofCharsIn, Expr.ofBodyIn_eq horder text]
  split
  · next inner hquoted => exact .quoted hquoted
  · next hquoted =>
      split
      · next name inner hcall =>
          -- The arguments of a call are shorter, so the theorem holds of them already.
          have hpieces : (arguments inner).map (Arg.ofCharsIn order)
              = (arguments inner).map Arg.ofChars := by
            refine List.map_congr_left fun piece hpiece => ?_
            have := length_lt_of_splitCall? hcall
            have := length_le_of_mem_arguments hpiece
            exact Arg.ofCharsIn_eq horder piece
          rw [List.attach_map_val, hpieces]
          exact .call hquoted hcall
      · next hcall =>
          split
          · next hcolon =>
              have hmem : ':' ∈ text := by simpa using hcolon
              split
              · next r hrange => exact .range hquoted hcall hmem hrange
              · next hrange => exact .noRange hquoted hcall hmem hrange
          · next hcolon =>
              have hmem : ':' ∉ text := by simpa using hcolon
              split
              · next c hcell => exact .cell hquoted hcall hmem hcell
              · next hcell =>
                  split
                  · next n hnumber => exact .number hquoted hcall hmem hcell hnumber
                  · next hnumber => exact .other hquoted hcall hmem hcell hnumber
termination_by 2 * text.length + 1

end

end FormulaTable
