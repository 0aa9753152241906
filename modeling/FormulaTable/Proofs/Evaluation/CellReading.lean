import FormulaTable.Proofs.Evaluation.Ask
import FormulaTable.Proofs.Evaluation.Cycle
import FormulaTable.Proofs.Evaluation.Machine
import FormulaTable.Proofs.Evaluation.Undrawn
import FormulaTable.Proofs.Formula.Argument

/-!
# `FormulaTable.Proofs.Evaluation.CellReading`: the readings of a cell agree

A cell is read in three ways. As an operand it is entered whatever stands in it; as an argument for
its number it is entered only if a formula stands in it; for its text it is entered if it lies in
the grid. `Context.readings_agree` says that all three come to one value, `Surroundings.cellValue?`,
and fail with one circular reference, if what is drawn makes no difference to that value. Every
reading evaluates the cell anew, so with a call of `RAND` in it they may differ
(`Context.readings_differ_if_drawn`).

The readings could differ for a cell on the path that holds no formula, since entering it is
refused. No such cell is on the path when a formula is evaluated (`Machine.onFormulas_of_running`):
of the cells entered, only the last one may hold no formula, and it is left at once.
-/

set_option autoImplicit false

namespace FormulaTable

/-! ## The paths that evaluations take -/

namespace Machine

variable {ctx : Context}

/-- The path inside a nested stack consists of formula cells. -/
theorem Nested.onFormulas {frames : List Frame} (h : Nested ctx frames) (hctx : ctx.OnFormulas) :
    (within ctx frames).OnFormulas := by
  intro c hc
  rw [within_grid]
  rcases mem_within_path.mp hc with hc | hc
  · exact h.holdsFormula c hc
  · exact hctx c hc

/-- While the machine is at a formula, its path consists of formula cells. -/
theorem onFormulas_of_running (hctx : ctx.OnFormulas) {formula : String} {n : Nat}
    {plan : Plan Value} {frames : List Frame}
    (hrun : run ctx n (start ctx formula) = .running plan frames)
    (htop : ∀ top ∈ frames.head?, ctx.grid.holdsFormula top.cell) :
    (within ctx frames).OnFormulas := by
  have hinvariant : Invariant ctx (.running plan frames) := by
    rw [← hrun]
    exact run_invariant n (start_invariant ctx formula)
  rcases hinvariant with hnested | ⟨value, top, below, -, rfl, hoff, hnested⟩
  · exact hnested.onFormulas hctx
  · -- The cell on top holds a formula too, so the whole stack is nested.
    have hwhole : Nested ctx (top :: below) := ⟨hoff, htop top rfl, hnested⟩
    exact hwhole.onFormulas hctx

end Machine

/-! ## Cells in the grid and outside -/

namespace Surroundings

variable {env : Surroundings} {c : CellRef}

/-- Outside the grid a cell has no value. -/
theorem cellValue?_outside (h : env.grid.text? c = none) : env.cellValue? c = .ok none := by
  rw [cellValue?, h]

/-- Outside the grid a cell gives no number. -/
theorem cellNumbers_outside (h : env.grid.text? c = none) : env.cellNumbers c = .ok [] := by
  rw [cellNumbers, cellValue?_outside h]
  rfl

/-- Outside the grid a cell gives the empty text. -/
theorem cellTexts_outside (h : env.grid.text? c = none) : env.cellTexts c = .ok [""] := by
  rw [cellTexts, cellText, h]
  rfl

section
variable {raw : String} (h : env.grid.text? c = some raw)
include h

/-- In the grid, only a formula has to be entered for its value. -/
theorem cellValue?_inside : env.cellValue? c =
    if isFormula raw then some <$> env.enter c else .ok (some (.text raw)) := by
  rw [cellValue?, h]

/-- In the grid, the text of a cell is the text of its value, formula or not. -/
theorem cellTexts_inside : env.cellTexts c = (fun value => [value.display]) <$> env.enter c := by
  rw [cellTexts, cellText, h]
  cases env.enter c <;> rfl

end

end Surroundings

/-! ## One value for all readings -/

namespace Context

/-- A fresh context has no cell on its path, and so none without a formula. -/
theorem onFormulas_fresh (g : Grid) (ambient : Ambient) : (g.context ambient).OnFormulas := by
  intro c hc
  exact absurd hc (not_mem_fresh g ambient c)

namespace OnFormulas

variable {ctx : Context} (h : ctx.OnFormulas)
include h

/-- A cell without a formula is not on the path, so it has its own text when it is entered. -/
theorem enter_literal {c : CellRef} (hformula : ¬ ctx.grid.holdsFormula c) :
    ctx.enter c = .ok (.text ((ctx.grid.text? c).getD "")) :=
  Context.enter_literal (fun hc => hformula (h c hc)) hformula

/-- A cell outside the grid is blank when it is entered. -/
theorem enter_outside {c : CellRef} (hout : ctx.grid.text? c = none) :
    ctx.enter c = .ok (.text "") := by
  have hformula : ¬ ctx.grid.holdsFormula c := by
    rw [Grid.holdsFormula_eq, hout]
    decide
  rw [h.enter_literal hformula, hout]
  rfl

/-- The value of a cell of the grid is the one it has when it is entered, formula or not. -/
theorem cellValue?_inside {c : CellRef} {raw : String} (hraw : ctx.grid.text? c = some raw) :
    ctx.surroundings.cellValue? c = some <$> ctx.enter c := by
  have hvalue : ctx.surroundings.cellValue? c
      = if isFormula raw then some <$> ctx.enter c else .ok (some (.text raw)) :=
    Surroundings.cellValue?_inside hraw
  rw [hvalue]
  by_cases hformula : isFormula raw
  · exact if_pos hformula
  · have hliteral : ¬ ctx.grid.holdsFormula c := by
      rw [Grid.holdsFormula_eq, hraw]
      exact hformula
    rw [if_neg hformula, h.enter_literal hliteral, hraw]
    rfl

/-- The number of a cell as an operand comes from its value. -/
theorem cellNumber_eq (c : CellRef) : ctx.surroundings.cellNumber c
    = (fun value => (value.bind Value.number?).getD 0) <$> ctx.surroundings.cellValue? c := by
  show (fun value => value.number?.getD 0) <$> ctx.enter c = _
  cases hraw : ctx.grid.text? c with
  | none =>
      -- Outside the grid the operand is the empty text, which is no number.
      rw [h.enter_outside hraw, Surroundings.cellValue?_outside hraw]
      rfl
  | some raw =>
      rw [h.cellValue?_inside hraw]
      cases ctx.enter c <;> rfl

/-- The text of a cell as an argument comes from its value. -/
theorem cellTexts_eq (c : CellRef) : ctx.surroundings.cellTexts c
    = (fun value => [(value.map Value.display).getD ""]) <$> ctx.surroundings.cellValue? c := by
  cases hraw : ctx.grid.text? c with
  | none =>
      rw [Surroundings.cellTexts_outside hraw, Surroundings.cellValue?_outside hraw]
      rfl
  | some raw =>
      have htexts : ctx.surroundings.cellTexts c = (fun value => [value.display]) <$> ctx.enter c :=
        Surroundings.cellTexts_inside hraw
      rw [htexts, h.cellValue?_inside hraw]
      cases ctx.enter c <;> rfl

end OnFormulas

/-! ## The address of a cell as an argument -/

section
variable {ctx : Context} {c : CellRef} (hrow : c.row + 1 < indexLimit)
  (hcol : c.col + 1 < indexLimit)
include hrow hcol

/-- As an argument, the address of a cell gives the numbers of the cell. -/
theorem argumentNumbers_toText :
    ctx.argumentNumbers c.toText = (ctx.toward .numbers).surroundings.cellNumbers c := by
  rw [argumentNumbers, Arg.ofString_toText hrow hcol, Arg.numbers]

/-- As an argument, the address of a cell gives the texts of the cell. -/
theorem argumentTexts_toText :
    ctx.argumentTexts c.toText = (ctx.toward .texts).surroundings.cellTexts c := by
  rw [argumentTexts, Arg.ofString_toText hrow hcol, Arg.texts]

variable {arguments : List String} {index : Nat} (hget : arguments[index]? = some c.toText)
include hget

/-- The number of an argument that is an address comes from the value that the cell has there. -/
theorem ask_number_toText : ctx.ask arguments (.number index)
    = (fun value => (value.bind Value.number?).getD 0)
      <$> ((ctx.past index).toward .numbers).surroundings.cellValue? c := by
  rw [ask_number hget, argumentNumbers_toText hrow hcol, Surroundings.cellNumbers]
  cases ((ctx.past index).toward .numbers).surroundings.cellValue? c with
  | error why => rfl
  | ok value =>
      show Except.ok (((value.bind Value.number?).toList).head?.getD 0) = _
      rw [Option.head?_toList]
      rfl

/-- The text of an argument that is an address comes from the value that the cell has there. -/
theorem OnFormulas.ask_text_toText (h : ctx.OnFormulas) : ctx.ask arguments (.text index)
    = (fun value => (value.map Value.display).getD "")
      <$> ((ctx.past index).toward .texts).surroundings.cellValue? c := by
  have hthere : ((ctx.past index).toward .texts).OnFormulas := by
    obtain ⟨draws, hdraws⟩ := ctx.past_eq_withDraws index
    rw [hdraws]
    exact h
  rw [ask_text hget, argumentTexts_toText hrow hcol, hthere.cellTexts_eq c]
  cases ((ctx.past index).toward .texts).surroundings.cellValue? c <;> rfl

end

/-- A reading that fails has failed to enter the cell. -/
theorem error_of_map_error {α β : Type} {f : α → β} {outcome : Except Fault α} {why : Fault}
    (h : f <$> outcome = .error why) : outcome = .error why := by
  cases outcome with
  | error met => exact congrArg Except.error (Except.error.inj h)
  | ok a => cases h

/-- A value of a cell can fail to be found only for a circular reference. -/
theorem circular_of_cellValue?_error {ctx : Context} {c : CellRef} {why : Fault}
    (h : ctx.surroundings.cellValue? c = .error why) : ∃ met, why = .circular met := by
  cases hraw : ctx.grid.text? c with
  | none =>
      rw [Surroundings.cellValue?_outside hraw] at h
      cases h
  | some raw =>
      rw [Surroundings.cellValue?_inside hraw] at h
      split at h
      · exact exists_of_enter_error (error_of_map_error h)
      · cases h

/-- All readings of a cell agree if its value is undrawn. In a context whose path consists of
formula cells, the number of a cell as an operand, the number of its address as an argument and the
text of its address as an argument come from one value, whatever is drawn for each of them, and fail
with the same circular reference if there is none. Such are all contexts in which an evaluation of a
cell evaluates a formula: those inside the cells on the stack, from a fresh context, whenever the
last one entered is a formula cell. -/
theorem readings_agree :
    (∀ ctx : Context, ctx.OnFormulas → ∀ c : CellRef, c.row + 1 < indexLimit →
      c.col + 1 < indexLimit → (ctx.Undrawn fun ctx => ctx.surroundings.cellValue? c) →
      ∀ (arguments : List String) (index : Nat), arguments[index]? = some c.toText →
        let r := ctx.surroundings.cellValue? c
        (∀ draws, (ctx.withDraws draws).surroundings.cellNumber c
          = (fun value => (value.bind Value.number?).getD 0) <$> r) ∧
        (∀ draws, (ctx.withDraws draws).ask arguments (.number index)
          = (fun value => (value.bind Value.number?).getD 0) <$> r) ∧
        (∀ draws, (ctx.withDraws draws).ask arguments (.text index)
          = (fun value => (value.map Value.display).getD "") <$> r) ∧
        ∀ why, r = .error why → ∃ met, why = .circular met ∧ ∀ draws,
          (ctx.withDraws draws).surroundings.cellNumber c = .error (.circular met) ∧
          (ctx.withDraws draws).ask arguments (.number index) = .error (.circular met) ∧
          (ctx.withDraws draws).ask arguments (.text index) = .error (.circular met)) ∧
    ∀ (g : Grid) (ambient : Ambient) (cell : CellRef) (formula : String),
      g.text? cell = some formula → isFormula formula →
      let inner := (g.context ambient).inside cell
      ∀ n plan frames,
        Machine.run inner n (Machine.start inner formula) = .running plan frames →
        (∀ top ∈ frames.head?, g.holdsFormula top.cell) →
        (Machine.within inner frames).OnFormulas := by
  constructor
  · intro ctx h c hrow hcol hdrawn arguments index hget r
    have hoperand : ∀ draws, (ctx.withDraws draws).surroundings.cellNumber c
        = (fun value => (value.bind Value.number?).getD 0) <$> r := by
      intro draws
      have hthere : (ctx.withDraws draws).OnFormulas := h
      rw [hthere.cellNumber_eq c]
      exact congrArg _ (hdrawn draws)
    -- An argument is read at a place of its own, where the cell has the same value.
    have hnumber : ∀ draws, (ctx.withDraws draws).ask arguments (.number index)
        = (fun value => (value.bind Value.number?).getD 0) <$> r := by
      intro draws
      rw [ask_number_toText hrow hcol hget]
      exact congrArg _ (hdrawn.past_eq draws index .numbers)
    have htext : ∀ draws, (ctx.withDraws draws).ask arguments (.text index)
        = (fun value => (value.map Value.display).getD "") <$> r := by
      intro draws
      have hthere : (ctx.withDraws draws).OnFormulas := h
      rw [hthere.ask_text_toText hrow hcol hget]
      exact congrArg _ (hdrawn.past_eq draws index .texts)
    refine ⟨hoperand, hnumber, htext, ?_⟩
    intro why hwhy
    obtain ⟨met, rfl⟩ := circular_of_cellValue?_error hwhy
    -- All three are made from the value, so they fail as it does.
    refine ⟨met, rfl, fun draws => ?_⟩
    rw [hoperand, hnumber, htext, hwhy]
    exact ⟨rfl, rfl, rfl⟩
  · intro g ambient cell formula htext hformula inner n plan frames hrun htop
    have hholds : g.holdsFormula cell := by
      rw [Grid.holdsFormula, htext]
      exact hformula
    have hinner : inner.OnFormulas := (onFormulas_fresh g ambient).inside hholds
    exact Machine.onFormulas_of_running hinner hrun htop

/-- `A2` holds a formula and is being evaluated. A formula cell, a cell outside the grid, and `A2`
itself, which is refused, are read alike in every way. -/
theorem readings_agree_inside_cell :
    let ctx := ((Grid.ofRows [["2.50", "=A1*2"], ["=B1+A1", "yes"]]).context .morning).inside ⟨1, 0⟩
    let arguments := ["B1", "C1", "A2"]
    ctx.OnFormulas ∧ (∀ c, ctx.Undrawn fun ctx => ctx.surroundings.cellValue? c) ∧ ∀ draws,
      ((ctx.withDraws draws).surroundings.cellNumber ⟨0, 1⟩ = .ok 5 ∧
        (ctx.withDraws draws).ask arguments (.number 0) = .ok 5 ∧
        (ctx.withDraws draws).ask arguments (.text 0) = .ok "5") ∧
      ((ctx.withDraws draws).surroundings.cellNumber ⟨0, 2⟩ = .ok 0 ∧
        (ctx.withDraws draws).ask arguments (.number 1) = .ok 0 ∧
        (ctx.withDraws draws).ask arguments (.text 1) = .ok "") ∧
      ∃ met, (ctx.withDraws draws).surroundings.cellNumber ⟨1, 0⟩ = .error (.circular met) ∧
        (ctx.withDraws draws).ask arguments (.number 2) = .error (.circular met) ∧
        (ctx.withDraws draws).ask arguments (.text 2) = .error (.circular met) := by
  intro ctx arguments
  obtain ⟨hagree, hpaths⟩ := readings_agree
  have hgrid : ctx.grid.DrawsNothing := Grid.drawsNothing_of_coordinates (by decide +kernel)
  have hdrawn : ∀ c, ctx.Undrawn fun ctx => ctx.surroundings.cellValue? c :=
    undrawn_cellValue? hgrid
  have hon : ctx.OnFormulas :=
    hpaths (Grid.ofRows [["2.50", "=A1*2"], ["=B1+A1", "yes"]]) .morning ⟨1, 0⟩ "=B1+A1"
      (by decide +kernel) (by decide +kernel) 0 _ [] rfl (by simp)
  have hvalue : ctx.surroundings.cellValue? ⟨0, 1⟩ = .ok (some (.number 5)) :=
    eq_ok_of_toOption (by decide +kernel)
  have hnone : ctx.surroundings.cellValue? ⟨0, 2⟩ = .ok none :=
    eq_ok_of_toOption (by decide +kernel)
  -- The cell that is being evaluated refers to itself here.
  have hrefused : ctx.surroundings.cellValue? ⟨1, 0⟩ = .error (.circular ⟨1, 0⟩) := by
    have htext : ctx.grid.text? ⟨1, 0⟩ = some "=B1+A1" := by decide +kernel
    rw [hon.cellValue?_inside htext, enter_of_mem (by decide +kernel)]
    rfl
  have hdisplay : (Value.number 5).display = "5" := by decide +kernel
  obtain ⟨hoperand, hnumber, htext, -⟩ :=
    hagree ctx hon ⟨0, 1⟩ (by decide) (by decide) (hdrawn _) arguments 0 (by decide +kernel)
  obtain ⟨hblankOperand, hblankNumber, hblankText, -⟩ :=
    hagree ctx hon ⟨0, 2⟩ (by decide) (by decide) (hdrawn _) arguments 1 (by decide +kernel)
  obtain ⟨-, -, -, hfails⟩ :=
    hagree ctx hon ⟨1, 0⟩ (by decide) (by decide) (hdrawn _) arguments 2 (by decide +kernel)
  rw [hvalue] at hoperand hnumber htext
  rw [hnone] at hblankOperand hblankNumber hblankText
  obtain ⟨met, -, hall⟩ := hfails _ hrefused
  refine ⟨hon, hdrawn, fun draws => ?_⟩
  exact ⟨⟨hoperand draws, hnumber draws, (htext draws).trans (congrArg Except.ok hdisplay)⟩,
    ⟨hblankOperand draws, hblankNumber draws, hblankText draws⟩, met, hall draws⟩

/-- A cell that casts a die has the value `1` for one reading and `4` for the others. -/
theorem readings_differ_if_drawn :
    let ctx := (Grid.ofRows [["=RANDBETWEEN(1,6)"]]).context .morning
    let other := ctx.withDraws (.constant 3)
    ctx.OnFormulas ∧
      (ctx.withDraws (.constant 0)).surroundings.cellValue? ⟨0, 0⟩ = .ok (some (.number 1)) ∧
      other.surroundings.cellNumber ⟨0, 0⟩ = .ok 4 ∧
      other.ask ["A1"] (.number 0) = .ok 4 ∧ other.ask ["A1"] (.text 0) = .ok "4" ∧
      (Value.number 1).display = "1" ∧ ((4 : Float) == 1) = false := by
  intro ctx other
  refine ⟨onFormulas_fresh _ _, ?_, ?_, ?_, ?_, by decide +kernel, by decide +kernel⟩
  · exact eq_ok_of_toOption (by decide +kernel)
  · exact eq_ok_of_toOption (by decide +kernel)
  · exact eq_ok_of_toOption (by decide +kernel)
  · exact eq_ok_of_toOption (by decide +kernel)

end Context
end FormulaTable
