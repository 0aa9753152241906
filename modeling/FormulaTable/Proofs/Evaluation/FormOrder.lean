import FormulaTable.Proofs.Evaluation.Sentinel
import FormulaTable.Proofs.Formula.FormOrder

/-!
# `FormulaTable.Proofs.Evaluation.FormOrder`: evaluation does not depend on the order of the forms

A formula is evaluated by its form, and so is the formula of every cell that it enters.
`Context.evaluateIn` tries the forms in a given order wherever it looks for one. Since no text has
two forms, the value is the same in every order (`Context.enterIn_eq`).

What has no form has no value; otherwise only arithmetic is without a value, if the result is not
finite (`HasForm.eval_eq_noValue_iff`).
-/

set_option autoImplicit false

namespace FormulaTable

/-! ## Formulas without a value -/

/-- The result of simple arithmetic, finite or not. -/
def Operator.result (operator : Operator) (left right : Float) : Float :=
  match operator with
  | .add => left + right
  | .sub => left - right
  | .mul => left * right
  | .div => left / right

/-- There is no value for exactly the numbers that are not finite. -/
theorem finiteValue_eq_noValue_iff {n : Float} :
    finiteValue n = .sentinel .noValue ↔ ¬ n.isFinite := by
  rw [finiteValue]
  split
  · next hfinite => simp [hfinite]
  · next hfinite => simp [hfinite]

/-- Arithmetic has no value if its result is not finite. A division by zero has a mark of its
own. -/
theorem Operator.apply_eq_noValue_iff {operator : Operator} {left right : Float} :
    operator.apply left right = .sentinel .noValue ↔
      ¬ (operator = .div ∧ right == 0) ∧ ¬ (operator.result left right).isFinite := by
  cases operator with
  | add => simp [apply, result, finiteValue_eq_noValue_iff]
  | sub => simp [apply, result, finiteValue_eq_noValue_iff]
  | mul => simp [apply, result, finiteValue_eq_noValue_iff]
  | div =>
      rw [apply, result]
      by_cases hzero : right == 0
      · simp [hzero]
      · simp [hzero, finiteValue_eq_noValue_iff]

/-- The text is simple arithmetic whose sides give numbers, each at its place, and the result is not
finite. A division by zero is no such case. -/
def HasNoFiniteResult (env : Surroundings) (body : List Char) : Prop :=
  ∃ left operator right l r, splitArithmetic? body = some (left, operator, right) ∧
    (env.toward .left).operand (Operand.ofChars left) = .ok l ∧
    (env.toward .right).operand (Operand.ofChars right) = .ok r ∧
    ¬ (operator = .div ∧ r == 0) ∧ ¬ (operator.result l r).isFinite

/-- A formula has no value if it has none of the forms, or if it is arithmetic without a finite
result. -/
theorem HasForm.eval_eq_noValue_iff {env : Surroundings} {body : List Char} {e : Expr}
    (hform : HasForm body e) :
    e.eval env = .ok (.sentinel .noValue) ↔
      (∀ form : Form, form.fits body = false) ∨ HasNoFiniteResult env body := by
  constructor
  · intro h
    -- Of the forms with a value of their own, only arithmetic may come to no value.
    cases harithmetic : splitArithmetic? body with
    | none =>
        cases hform.origin h with
        | noValue hcall hcell hnumber =>
            refine Or.inl fun form => ?_
            cases form <;> simp [Form.fits, hcall, hcell, harithmetic, hnumber]
    | some parts =>
        obtain ⟨left, operator, right⟩ := parts
        rw [hform.unique (.arithmetic harithmetic)] at h
        obtain ⟨l, r, hleft, hright, hvalue⟩ := Expr.eval_arithmetic_eq_ok h
        obtain ⟨hzero, hresult⟩ := Operator.apply_eq_noValue_iff.mp hvalue.symm
        exact Or.inr ⟨left, operator, right, l, r, harithmetic, hleft, hright, hzero, hresult⟩
  · rintro (hnone | ⟨left, operator, right, l, r, harithmetic, hleft, hright, hzero, hresult⟩)
    · rw [hform.unique (Form.hasForm_formless hnone)]
      rfl
    · rw [hform.unique (.arithmetic harithmetic), Expr.eval, hleft, hright]
      exact congrArg Except.ok (Operator.apply_eq_noValue_iff.mpr ⟨hzero, hresult⟩)

/-! ## Evaluation with the forms in some order -/

namespace Context

/-- Enters a cell for its value. The forms are tried in the given order, for the formula of the cell
and for those of the cells that it enters. -/
def enterIn (order : List Form) (ctx : Context) (cell : CellRef) : Except Fault Value :=
  if _hcell : cell ∈ ctx.path then .error (.circular cell)
  else if _hformula : ctx.grid.holdsFormula cell then
    (Expr.ofBodyIn order (bodyOf ((ctx.grid.text? cell).getD "").toList)).eval {
      grid := ctx.grid
      ambient := (ctx.inside cell).ambient
      enterAt := fun draws c => enterIn order ((ctx.inside cell).withDraws draws) c }
  else .ok (.text ((ctx.grid.text? cell).getD ""))
termination_by ctx.path.pending ctx.grid
decreasing_by exact Path.pending_insert_lt _hcell _hformula

/-- The value of a formula without the `=` in front, with the forms tried in the given order. -/
def evaluateIn (order : List Form) (ctx : Context) (body : List Char) : Except Fault Value :=
  (Expr.ofBodyIn order body).eval {
    grid := ctx.grid
    ambient := ctx.ambient
    enterAt := fun draws c => enterIn order (ctx.withDraws draws) c }

section
variable {order : List Form} (horder : ∀ form, form ∈ order)
include horder

/-- The order in which the forms are tried makes no difference to the value of a cell. -/
theorem enterIn_eq (ctx : Context) : ctx.enterIn order = ctx.enter := by
  induction ctx using Context.induction with
  | step ctx ih =>
      funext cell
      rw [enterIn]
      by_cases hcell : cell ∈ ctx.path
      · rw [dif_pos hcell, enter_of_mem hcell]
      · rw [dif_neg hcell]
        by_cases hformula : ctx.grid.holdsFormula cell
        · have hinside : ∀ draws, ((ctx.inside cell).withDraws draws).enterIn order
              = (ctx.inside cell).enterAt draws := ih cell hcell hformula
          rw [dif_pos hformula, enter_formula hcell hformula, Expr.ofBodyIn_eq horder]
          simp only [hinside]
          rfl
        · rw [dif_neg hformula, enter_literal hcell hformula]

/-- The order in which the forms are tried makes no difference to the value of a formula. -/
theorem evaluateIn_eq (ctx : Context) (body : List Char) :
    ctx.evaluateIn order body = (Expr.ofBody body).eval ctx.surroundings := by
  rw [evaluateIn, Expr.ofBodyIn_eq horder]
  simp only [enterIn_eq horder]
  rfl

end

/-- The forms of a formula exclude each other. Without the blanks around it, a text has one of the
four forms at most: it is a call, an address, simple arithmetic or a number. So the forms may be
tried in any order, in the formula, in what stands inside it and in the formulas of all cells that
it enters, and the outcome is the same. A formula is marked as one without a value if it has none of
the forms, and otherwise only if it is arithmetic whose result is not finite. -/
theorem one_form_at_most (ctx : Context) (body : List Char) :
    (∀ form other : Form, form.fits (Text.trim body) → other.fits (Text.trim body) →
      form = other) ∧
    (∀ order : List Form, (∀ form, form ∈ order) →
      ctx.evaluateIn order body = (Expr.ofBody body).eval ctx.surroundings) ∧
    ((Expr.ofBody body).eval ctx.surroundings = .ok (.sentinel .noValue) ↔
      (∀ form : Form, form.fits (Text.trim body) = false) ∨
        HasNoFiniteResult ctx.surroundings (Text.trim body)) :=
  ⟨fun _ _ => Form.eq_of_fits (Text.trim_trim body), fun _ horder => evaluateIn_eq horder ctx body,
    (Expr.hasForm_ofBody body).eval_eq_noValue_iff⟩

/-- `E5` is an address, `1E5` and `1E+5` are numbers, `E1+5` is arithmetic, and `nan` is nothing at
all. The square of the number in `E1` is not finite. Trying the forms backwards changes nothing. -/
theorem one_form_at_most_of_exponents :
    let ctx := (Grid.ofRows [["", "", "", "", "1E200"]]).context .morning
    let backwards : List Form := [.number, .arithmetic, .cell, .call]
    (["E5", "1E5", "1E+5", "E1+5", "nan"].map fun text => backwards.filter (·.fits text.toList))
        = [[.cell], [.number], [.number], [.arithmetic], []] ∧
      ctx.evaluateIn backwards " nan".toList = .ok (.sentinel .noValue) ∧
      HasNoFiniteResult ctx.surroundings "E1*E1".toList ∧
      ctx.evaluateIn backwards "E1*E1".toList = .ok (.sentinel .noValue) := by
  intro ctx backwards
  have hall : ∀ form, form ∈ backwards := by
    intro form
    cases form <;> decide
  -- Elsewhere this is the name of a number.
  have hnone : ∀ form : Form, form.fits (Text.trim " nan".toList) = false := by
    intro form
    cases form <;> decide +kernel
  have hleft : (ctx.surroundings.toward .left).operand (Operand.ofChars "E1".toList) = .ok 1e200 :=
    eq_ok_of_toOption (by decide +kernel)
  have hright : (ctx.surroundings.toward .right).operand (Operand.ofChars "E1".toList)
      = .ok 1e200 := eq_ok_of_toOption (by decide +kernel)
  have hsquare : HasNoFiniteResult ctx.surroundings "E1*E1".toList :=
    ⟨"E1".toList, .mul, "E1".toList, 1e200, 1e200, by decide +kernel, hleft, hright, by decide,
      by decide +kernel⟩
  obtain ⟨-, horder, hvalue⟩ := one_form_at_most ctx " nan".toList
  obtain ⟨-, horder', hvalue'⟩ := one_form_at_most ctx "E1*E1".toList
  refine ⟨by decide +kernel, ?_, hsquare, ?_⟩
  · rw [horder backwards hall]
    exact hvalue.mpr (Or.inl hnone)
  · rw [horder' backwards hall]
    have htrim : Text.trim "E1*E1".toList = "E1*E1".toList := by decide
    rw [htrim] at hvalue'
    exact hvalue'.mpr (Or.inr hsquare)

end Context
end FormulaTable
