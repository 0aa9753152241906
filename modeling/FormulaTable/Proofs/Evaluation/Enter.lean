import FormulaTable.Proofs.Evaluation.Reference

/-!
# `FormulaTable.Proofs.Evaluation.Enter`: entering a cell follows the plan of the cell

`Grid.cellPlan` is the plan of a cell: that of its formula, or its raw text at once. It does not
depend on the path. `Context.enter_of_not_mem` says that a cell off the path is entered by following
its plan in the context inside the cell, so the path has a say in two places only: which cells are
refused, and which context the plan is followed in.

`Context.induction` is the induction that carries a property through all contexts: it may be assumed
of the contexts inside the formula cells that are not on the path, of which there are fewer and
fewer. `Context.enterAt_onlyCircular` is its first use, and the reason why evaluations follow plans
at all (`Context.evaluate_eq_run`, `Context.ask_eq_run`).
-/

set_option autoImplicit false

namespace FormulaTable

/-- The formula of a cell. -/
def Grid.formulaAt (g : Grid) (c : CellRef) : Expr :=
  Expr.ofFormula ((g.text? c).getD "")

/-- The plan of a cell that is entered from a place. A text that is no formula is its own value. -/
def Grid.cellPlan (g : Grid) (ambient : Ambient) (c : CellRef) : Plan Value :=
  if g.holdsFormula c then (g.formulaAt c).plan g (ambient.toward (.inside c))
  else .done (.text ((g.text? c).getD ""))

/-- Outside the grid there is no text, and none is no formula. -/
theorem Grid.holdsFormula_eq (g : Grid) (c : CellRef) :
    g.holdsFormula c = isFormula ((g.text? c).getD "") := by
  rw [Grid.holdsFormula]
  cases g.text? c <;> rfl

namespace Context

/-- The context inside a cell. -/
def inside (ctx : Context) (cell : CellRef) : Context :=
  { ctx with ambient := ctx.ambient.toward (.inside cell), path := ctx.path.insert cell }

/-- To enter a cell from a place is to enter it in the context there. -/
theorem enterAt_eq (ctx : Context) (draws : Draws) :
    ctx.enterAt draws = (ctx.withDraws draws).enter := rfl

/-- What a formula sees of a cell in a context is what comes of entering it there. -/
@[simp] theorem surroundings_enter (ctx : Context) (cell : CellRef) :
    ctx.surroundings.enter cell = ctx.enter cell := rfl

/-- A formula sees the grid of its context. -/
@[simp] theorem surroundings_grid (ctx : Context) : ctx.surroundings.grid = ctx.grid := rfl

/-- To show a property of all contexts, it may be assumed of the contexts inside the formula cells
that are not on the path, at every place there. -/
@[elab_as_elim]
theorem induction {motive : Context → Prop}
    (step : ∀ ctx : Context, (∀ cell, cell ∉ ctx.path → ctx.grid.holdsFormula cell →
      ∀ draws, motive ((ctx.inside cell).withDraws draws)) → motive ctx) (ctx : Context) :
    motive ctx :=
  step ctx fun cell hcell hformula draws =>
    have := Path.pending_insert_lt hcell hformula
    induction step ((ctx.inside cell).withDraws draws)
termination_by ctx.path.pending ctx.grid

/-- A cell on the path is refused. -/
theorem enter_of_mem {ctx : Context} {cell : CellRef} (h : cell ∈ ctx.path) :
    ctx.enter cell = .error (.circular cell) := by
  rw [enter_eq, descend, if_pos h]
  rfl

/-- A cell that has a value in a context is off its path. -/
theorem not_mem_of_enter_ok {ctx : Context} {cell : CellRef} {value : Value}
    (h : ctx.enter cell = .ok value) : cell ∉ ctx.path := by
  intro hmem
  rw [enter_of_mem hmem] at h
  cases h

/-- A formula cell off the path has the value of its formula inside it. -/
theorem enter_formula {ctx : Context} {cell : CellRef} (h : cell ∉ ctx.path)
    (hformula : ctx.grid.holdsFormula cell) :
    ctx.enter cell = (ctx.grid.formulaAt cell).eval (ctx.inside cell).surroundings := by
  rw [enter_eq, descend, if_neg h]
  exact if_pos hformula

/-- Any other cell off the path has its text for its value. -/
theorem enter_literal {ctx : Context} {cell : CellRef} (h : cell ∉ ctx.path)
    (hformula : ¬ ctx.grid.holdsFormula cell) :
    ctx.enter cell = .ok (.text ((ctx.grid.text? cell).getD "")) := by
  rw [enter_eq, descend, if_neg h]
  exact if_neg hformula

section
variable {ctx : Context} (draws : Draws) {cell : CellRef}

/-- A cell on the path is refused from everywhere. -/
theorem enterAt_of_mem (h : cell ∈ ctx.path) :
    ctx.enterAt draws cell = .error (.circular cell) := by
  rw [enterAt_eq]
  exact enter_of_mem h

/-- A formula cell off the path has the value of its formula inside it, from everywhere. -/
theorem enterAt_formula (h : cell ∉ ctx.path) (hformula : ctx.grid.holdsFormula cell) :
    ctx.enterAt draws cell
      = (ctx.grid.formulaAt cell).eval ((ctx.withDraws draws).inside cell).surroundings := by
  rw [enterAt_eq]
  exact enter_formula h hformula

/-- Any other cell off the path has its text for its value, from everywhere. -/
theorem enterAt_literal (h : cell ∉ ctx.path) (hformula : ¬ ctx.grid.holdsFormula cell) :
    ctx.enterAt draws cell = .ok (.text ((ctx.grid.text? cell).getD "")) := by
  rw [enterAt_eq]
  exact enter_literal h hformula

end

/-- A cell can fail to have a value only for a circular reference. The faults of functions stay in
the calls they arise in. -/
theorem enterAt_onlyCircular (ctx : Context) : OnlyCircular ctx.enterAt := by
  induction ctx using Context.induction with
  | step ctx ih =>
      intro draws cell why hwhy
      by_cases hcell : cell ∈ ctx.path
      · rw [enterAt_of_mem draws hcell] at hwhy
        exact ⟨cell, by simpa using hwhy.symm⟩
      by_cases hformula : ctx.grid.holdsFormula cell
      · have ihcell := ih cell hcell hformula (draws.toward (.inside cell))
        have hinside := Expr.eval_eq_run ((ctx.withDraws draws).inside cell).surroundings ihcell
        rw [enterAt_formula draws hcell hformula, hinside] at hwhy
        -- The formula itself never refuses, so a cell inside it has failed.
        obtain h | ⟨there, other, -, hother⟩ :=
          Plan.error_of_entersOnly (Expr.plan_entersOnly ctx.grid _ _) hwhy
        · exact h.elim
        · exact ihcell there other why hother
      · rw [enterAt_literal draws hcell hformula] at hwhy
        simp at hwhy

/-- A cell fails only for a circular reference. -/
theorem exists_of_enter_error {ctx : Context} {cell : CellRef} {why : Fault}
    (h : ctx.enter cell = .error why) : ∃ met, why = .circular met :=
  ctx.enterAt_onlyCircular ctx.ambient.draw cell why h

/-- A cell off the path is entered by following its plan inside it. -/
theorem enter_of_not_mem {ctx : Context} {cell : CellRef} (h : cell ∉ ctx.path) :
    ctx.enter cell = (ctx.grid.cellPlan ctx.ambient cell).run (ctx.inside cell).enterAt := by
  rw [Grid.cellPlan]
  by_cases hformula : ctx.grid.holdsFormula cell
  · rw [if_pos hformula, enter_formula h hformula]
    exact Expr.eval_eq_run (ctx.inside cell).surroundings (enterAt_onlyCircular _) _
  · rw [if_neg hformula, enter_literal h hformula]
    rfl

/-- From everywhere, a cell off the path is entered by following its plan inside it. -/
theorem enterAt_of_not_mem {ctx : Context} (draws : Draws) {cell : CellRef}
    (h : cell ∉ ctx.path) :
    ctx.enterAt draws cell
      = (ctx.grid.cellPlan (ctx.withDraws draws).ambient cell).run
        ((ctx.withDraws draws).inside cell).enterAt := by
  rw [enterAt_eq]
  exact enter_of_not_mem h

/-- A formula is evaluated by following its plan. -/
theorem evaluate_eq_run (ctx : Context) (formula : String) :
    ctx.evaluate formula = ((Expr.ofFormula formula).plan ctx.grid ctx.ambient).run ctx.enterAt :=
  Expr.eval_eq_run ctx.surroundings ctx.enterAt_onlyCircular _

/-- Arguments are asked by following the plans of their readings. -/
theorem ask_eq_run {α : Type} (ctx : Context) (arguments : List String) (q : Query α) :
    ctx.ask arguments q
      = (q.plan (Arg.plans ctx.grid ctx.ambient (arguments.map Arg.ofString))).run
        ctx.enterAt := by
  rw [ask, readings, Query.run_plan,
    Arg.readings_eq_map ctx.surroundings ctx.enterAt_onlyCircular]
  rfl

/-! ## What the outcome of a formula can be -/

/-- A formula fails only where a cell that it refers to fails, and in the same way. -/
theorem exists_reference_of_evaluate_error {ctx : Context} {formula : String} {why : Fault}
    (h : ctx.evaluate formula = .error why) :
    ∃ draws, ∃ c ∈ (Expr.ofFormula formula).references ctx.grid,
      ctx.enterAt draws c = .error why := by
  rw [evaluate_eq_run] at h
  obtain h | hc := Plan.error_of_entersOnly (Expr.plan_entersOnly ctx.grid ctx.ambient _) h
  · exact h.elim
  · exact hc

/-- A formula fails only for a circular reference. -/
theorem evaluate_error {ctx : Context} {formula : String} {why : Fault}
    (h : ctx.evaluate formula = .error why) : ∃ c, why = .circular c := by
  obtain ⟨draws, c, -, hc⟩ := exists_reference_of_evaluate_error h
  exact ctx.enterAt_onlyCircular draws c why hc

/-! ## What a cell shows -/

/-- A fresh context has no cell on its path. -/
theorem not_mem_fresh (g : Grid) (ambient : Ambient) (c : CellRef) :
    c ∉ (g.context ambient).path :=
  List.not_mem_nil

/-- On its own, a cell shows what comes of entering it. -/
theorem settled_fresh (g : Grid) (ambient : Ambient) (c : CellRef) :
    (g.context ambient).settled c = settle ((g.context ambient).enter c) := by
  have hfresh : c ∉ (g.context ambient).path := not_mem_fresh g ambient c
  by_cases hformula : g.holdsFormula c
  · exact if_pos ((g.holdsFormula_eq c).symm.trans hformula)
  · rw [enter_literal hfresh hformula]
    exact if_neg fun hraw => hformula ((g.holdsFormula_eq c).trans hraw)

end Context
end FormulaTable
