import FormulaTable.Proofs.Evaluation.CellReading
import FormulaTable.Proofs.Evaluation.Preview
import FormulaTable.Proofs.Formula.Form

/-!
# `FormulaTable.Proofs.Evaluation.Inlining`: a call in place of the cell that holds it

A cell whose formula is a call may be referred to, or its call may be written where the reference
would stand. `Context.call_in_place_of_cell` says that an argument of either kind gives the same
texts and, unless the value is a text, the same numbers.

The two are evaluated at different places. What is inside the cell is evaluated with the cell on the
path, what is written as an argument without it. Since the cell has a value, the longer path makes
no difference (`Context.enter_agrees_evaluate`); and the places draw other numbers, so the value has
to be undrawn (`Context.evaluate_of_undrawn_cell`). What is left is that a call has the same form
wherever it stands, with an `=` and blanks around it or as an argument, and that the value is turned
into numbers by `Value.callNumbers` on one side and by `Value.number?` on the other. These differ
for texts: a text in a cell is a number if it spells one, and the text of a call never is.
-/

set_option autoImplicit false

namespace FormulaTable

/-- Only a text can give a number that the value of a call does not. -/
theorem Value.callNumbers_eq {v : Value} (h : ∀ s, v ≠ .text s) :
    v.callNumbers = v.number?.toList := by
  cases v with
  | text s => exact absurd rfl (h s)
  | number n => rfl
  | boolean b => rfl
  | sentinel s => rfl

namespace Context

variable {ctx : Context}

section
variable {argument : String} {name inner : List Char}
  (hcall : splitCall? argument.toList = some (name, inner))
include hcall

/-- The texts of an argument that is a call: what is shown of its value. -/
theorem argumentTexts_of_call :
    ctx.argumentTexts argument
      = (fun v => [v.display]) <$> (ctx.toward .texts).evaluate argument := by
  rw [argumentTexts, Arg.ofString_of_splitCall? hcall, Arg.texts, evaluate,
    Expr.ofFormula_of_splitCall? hcall, Expr.eval]
  rfl

/-- The numbers of an argument that is a call. -/
theorem argumentNumbers_of_call :
    ctx.argumentNumbers argument
      = Value.callNumbers <$> (ctx.toward .numbers).evaluate argument := by
  rw [argumentNumbers, Arg.ofString_of_splitCall? hcall, Arg.numbers, evaluate,
    Expr.ofFormula_of_splitCall? hcall, Expr.eval]

end

/-- The value read of a formula cell is the one it has when it is entered. -/
theorem enter_of_cellValue? {c : CellRef} {raw : String} (hraw : ctx.grid.text? c = some raw)
    (hformula : isFormula raw) {v : Value} (h : ctx.surroundings.cellValue? c = .ok (some v)) :
    ctx.enter c = .ok v := by
  rw [Surroundings.cellValue?_inside hraw, if_pos hformula] at h
  obtain ⟨entered, hentered, hv⟩ := exists_of_map_ok h
  obtain rfl := Option.some.inj hv
  exact hentered

/-- The form of a call does not depend on an `=` in front of it, nor on blanks around it. -/
theorem evaluate_trimmed_call {raw : String} {body name inner : List Char}
    (hbody : raw.toList = '=' :: body) (hcall : splitCall? (Text.trim body) = some (name, inner)) :
    ctx.evaluate (String.ofList (Text.trim body)) = ctx.evaluate raw := by
  have hform : HasForm (Text.trim body)
      (.call (Builtin.ofName? name) ((arguments inner).map Arg.ofChars)) := .call hcall
  have hraw : Expr.ofFormula raw
      = .call (Builtin.ofName? name) ((arguments inner).map Arg.ofChars) := by
    rw [Expr.ofFormula, hbody]
    exact (Expr.hasForm_ofBody body).unique hform
  have htoList : splitCall? (String.ofList (Text.trim body)).toList = some (name, inner) := by
    rw [String.toList_ofList, hcall]
  rw [evaluate, evaluate, hraw, Expr.ofFormula_of_splitCall? htoList]

/-- The formula of a cell with an undrawn value has this value outside of the cell as well, whatever
is drawn for it. -/
theorem evaluate_of_undrawn_cell {c : CellRef} {raw : String} (hraw : ctx.grid.text? c = some raw)
    (hformula : isFormula raw) (hdrawn : ctx.Undrawn fun ctx => ctx.surroundings.cellValue? c)
    {v : Value} (hvalue : ctx.surroundings.cellValue? c = .ok (some v)) (draws : Draws) :
    (ctx.withDraws draws).evaluate raw = .ok v := by
  -- There are draws with which the cell has these draws inside it.
  obtain ⟨whole, rfl⟩ := Draws.exists_toward (.inside c) draws
  have hraw' : (ctx.withDraws whole).grid.text? c = some raw := hraw
  have henter : (ctx.withDraws whole).enter c = .ok v :=
    enter_of_cellValue? hraw' hformula ((hdrawn whole).trans hvalue)
  -- Inside the cell the path is longer, and it has not refused anything.
  exact (enter_agrees_evaluate (ctx.withDraws whole) hraw' hformula).ok henter

/-- A cell whose formula is a call and the call itself, written as arguments, give the same texts,
whatever is drawn for either, if it makes no difference to the value of the cell: what is shown of
this value. They give the same numbers as well, unless the value is a text. A text gives a number
only as the value of a cell, and only if it spells one. -/
theorem call_in_place_of_cell {c : CellRef} {raw : String} {body name inner : List Char} {v : Value}
    (hraw : ctx.grid.text? c = some raw) (hbody : raw.toList = '=' :: body)
    (hcall : splitCall? (Text.trim body) = some (name, inner))
    (hrow : c.row + 1 < indexLimit) (hcol : c.col + 1 < indexLimit)
    (hdrawn : ctx.Undrawn fun ctx => ctx.surroundings.cellValue? c)
    (hvalue : ctx.surroundings.cellValue? c = .ok (some v)) (draws draws' : Draws) :
    let call := String.ofList (Text.trim body)
    ((ctx.withDraws draws).ask [call] .allTexts = .ok [v.display] ∧
        (ctx.withDraws draws').ask [c.toText] .allTexts = .ok [v.display]) ∧
      ((ctx.withDraws draws).ask [call] .allNumbers = .ok v.callNumbers ∧
        (ctx.withDraws draws').ask [c.toText] .allNumbers = .ok v.number?.toList) ∧
      ((∀ s, v ≠ .text s) → (ctx.withDraws draws).ask [call] .allNumbers
        = (ctx.withDraws draws').ask [c.toText] .allNumbers) := by
  intro call
  have hformula : isFormula raw := by
    rw [isFormula, hbody]
    rfl
  -- The call has the value of the cell, although the cell is not on its path.
  have hevaluate : ∀ there, (ctx.withDraws there).evaluate call = .ok v := by
    intro there
    rw [evaluate_trimmed_call hbody hcall]
    exact evaluate_of_undrawn_cell hraw hformula hdrawn hvalue there
  have hread : ∀ there, (ctx.withDraws there).surroundings.cellValue? c = .ok (some v) :=
    fun there => (hdrawn there).trans hvalue
  have hsplit : splitCall? call.toList = some (name, inner) := by
    rw [String.toList_ofList, hcall]
  have hnumbers : (ctx.withDraws draws).ask [call] .allNumbers = .ok v.callNumbers := by
    rw [ask_allNumbers_singleton, argumentNumbers_of_call hsplit, withDraws_toward, hevaluate]
    rfl
  have hcellNumbers : (ctx.withDraws draws').ask [c.toText] .allNumbers
      = .ok v.number?.toList := by
    rw [ask_allNumbers_singleton, argumentNumbers_toText hrow hcol, withDraws_toward,
      Surroundings.cellNumbers, hread]
    rfl
  refine ⟨⟨?_, ?_⟩, ⟨hnumbers, hcellNumbers⟩, ?_⟩
  · rw [ask_allTexts_singleton, argumentTexts_of_call hsplit, withDraws_toward, hevaluate]
    rfl
  · have hraw' : (ctx.withDraws (draws'.toward .texts)).grid.text? c = some raw := hraw
    have henter : (ctx.withDraws (draws'.toward .texts)).surroundings.enter c = .ok v :=
      enter_of_cellValue? hraw' hformula (hread _)
    rw [ask_allTexts_singleton, argumentTexts_toText hrow hcol, withDraws_toward,
      Surroundings.cellTexts_inside hraw', henter]
    rfl
  · intro hother
    -- Only a text that spells a number counts for the cell and not for the call.
    rw [hnumbers, hcellNumbers, Value.callNumbers_eq hother]

/-- While `A2` is being evaluated, its reference to `A1` and the call in `A1` give the same. -/
theorem call_in_place_of_cell_inside_other :
    let g := Grid.ofRows [["= SUM(B1, 2) ", "2.50"], ["=A1", ""]]
    let ctx := (g.context .morning).inside ⟨1, 0⟩
    (ctx.Undrawn fun ctx => ctx.surroundings.cellValue? ⟨0, 0⟩) ∧
      ctx.surroundings.cellValue? ⟨0, 0⟩ = .ok (some (.number 4.5)) ∧ ∀ draws draws',
        (ctx.withDraws draws).ask ["SUM(B1, 2)"] .allTexts
          = (ctx.withDraws draws').ask ["A1"] .allTexts ∧
        (ctx.withDraws draws).ask ["SUM(B1, 2)"] .allNumbers = .ok [4.5] ∧
        (ctx.withDraws draws').ask ["A1"] .allNumbers = .ok [4.5] := by
  intro g ctx
  have hraw : ctx.grid.text? ⟨0, 0⟩ = some "= SUM(B1, 2) " := by decide +kernel
  have hbody : "= SUM(B1, 2) ".toList = '=' :: " SUM(B1, 2) ".toList := by decide +kernel
  have hcall : splitCall? (Text.trim " SUM(B1, 2) ".toList)
      = some ("SUM".toList, "B1, 2".toList) := by decide +kernel
  have hgrid : ctx.grid.DrawsNothing := Grid.drawsNothing_of_coordinates (by decide +kernel)
  have hdrawn : ctx.Undrawn fun ctx => ctx.surroundings.cellValue? ⟨0, 0⟩ :=
    undrawn_cellValue? hgrid _
  have hvalue : ctx.surroundings.cellValue? ⟨0, 0⟩ = .ok (some (.number 4.5)) :=
    eq_ok_of_toOption (by decide +kernel)
  refine ⟨hdrawn, hvalue, fun draws draws' => ?_⟩
  obtain ⟨⟨htext, hcellText⟩, ⟨hnumbers, hcellNumbers⟩, -⟩ :=
    call_in_place_of_cell hraw hbody hcall (by decide) (by decide) hdrawn hvalue draws draws'
  have hwritten : String.ofList (Text.trim " SUM(B1, 2) ".toList) = "SUM(B1, 2)" := by
    decide +kernel
  have haddress : CellRef.toText ⟨0, 0⟩ = "A1" := by decide +kernel
  -- The theorem speaks of the trimmed body and of the address as texts.
  rw [hwritten] at htext hnumbers
  rw [haddress] at hcellText hcellNumbers
  exact ⟨htext.trans hcellText.symm, hnumbers, hcellNumbers⟩

end Context
end FormulaTable
