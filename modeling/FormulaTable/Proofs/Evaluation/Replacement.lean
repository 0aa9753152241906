import FormulaTable.Proofs.Evaluation.Congruence
import FormulaTable.Proofs.Evaluation.Draws
import FormulaTable.Proofs.Evaluation.PathIndependence
import FormulaTable.Proofs.Grid.Shape

/-!
# `FormulaTable.Proofs.Evaluation.Replacement`: a formula in place of another

Which cell a circular reference names depends on the order in which cells are entered, and nothing
that is shown depends on it. `SameButCell` takes outcomes for the same that differ at most in that
cell. If two formulas have the same outcomes in every context, up to that cell, then one can be
written in place of the other without a change to what any cell shows: `Grid.settled_put`. The cells
that refer to the formula may be among those it refers to.

The plans of all other formulas stay what they are (`Expr.plan_congr`), for a plan knows of a cell
only whether it lies in the grid, whether it holds a formula, and its text if it holds none.

All contexts here are steady, so that two formulas may be compared which read the same cells at
different places. For what is undrawn this is enough (`Context.Undrawn.related`).
-/

set_option autoImplicit false

namespace FormulaTable

/-! ## Outcomes that are the same but for the cell named -/

/-- Two outcomes are the same, or both are circular references, perhaps of different cells. -/
def SameButCell {α : Type} (x y : Except Fault α) : Prop :=
  x = y ∨ ∃ c d, x = .error (.circular c) ∧ y = .error (.circular d)

section
variable {α : Type} {x y z : Except Fault α}

/-- Neither side has a result that the other has not. -/
theorem sameButCell_iff : SameButCell x y ↔ AgreesOrCircular x y ∧ AgreesOrCircular y x := by
  constructor
  · rintro (rfl | ⟨c, d, rfl, rfl⟩)
    · exact ⟨Or.inl rfl, Or.inl rfl⟩
    · exact ⟨Or.inr ⟨c, rfl⟩, Or.inr ⟨d, rfl⟩⟩
  · rintro ⟨hxy | ⟨c, hx⟩, hyx | ⟨d, hy⟩⟩
    · exact Or.inl hxy
    · exact Or.inl hxy
    · exact Or.inl hyx.symm
    · exact Or.inr ⟨c, d, hx, hy⟩

/-- What is the same as a third is the same. -/
theorem SameButCell.trans (h : SameButCell x y) (h' : SameButCell y z) : SameButCell x z := by
  rcases h with rfl | ⟨c, d, rfl, rfl⟩
  · exact h'
  · rcases h' with rfl | ⟨-, d', -, rfl⟩
    · exact Or.inr ⟨c, d, rfl, rfl⟩
    · exact Or.inr ⟨c, d', rfl, rfl⟩

/-- Evaluations in which the cells have the same outcomes have the same outcome. -/
theorem Plan.run_sameButCell {visit visit' : Draws → CellRef → Except Fault Value}
    (h : ∀ draws c, SameButCell (visit draws c) (visit' draws c)) (p : Plan α) :
    SameButCell (p.run visit) (p.run visit') :=
  sameButCell_iff.mpr ⟨Plan.run_agrees (fun draws c => (sameButCell_iff.mp (h draws c)).1) p,
    Plan.run_agrees (fun draws c => (sameButCell_iff.mp (h draws c)).2) p⟩

/-- What a cell shows does not tell which cell is named. -/
theorem Context.settle_congr {x y : Except Fault Value} (h : SameButCell x y) :
    settle x = settle y := by
  rcases h with rfl | ⟨c, d, rfl, rfl⟩ <;> rfl

end

/-! ## Grids with the same plans -/

/-- Two grids give every range the same cells, and every cell the same plans as an argument. -/
structure Grid.SamePlans (g g' : Grid) : Prop where
  cellsOf : ∀ r, g.cellsOf r = g'.cellsOf r
  numbersPlan : ∀ draws c, g.numbersPlan draws c = g'.numbersPlan draws c
  textsPlan : ∀ draws c, g.textsPlan draws c = g'.textsPlan draws c

mutual

/-- A formula has the same plan in both grids. -/
theorem Expr.plan_congr {g g' : Grid} (h : g.SamePlans g') :
    (ambient : Ambient) → (e : Expr) → e.plan g ambient = e.plan g' ambient
  | ambient, .call f arguments => by
      rw [Expr.plan, Expr.plan, Arg.plans_congr h ambient arguments]
  | _, .cell c => by rw [Expr.plan, Expr.plan]
  | _, .arithmetic left operator right => by rw [Expr.plan, Expr.plan]
  | _, .number n => by rw [Expr.plan, Expr.plan]
  | _, .formless => by rw [Expr.plan, Expr.plan]

/-- An argument that is read for its numbers has the same plan in both grids. -/
theorem Arg.numbersPlan_congr {g g' : Grid} (h : g.SamePlans g') :
    (ambient : Ambient) → (a : Arg) → a.numbersPlan g ambient = a.numbersPlan g' ambient
  | _, .plain _ => by rw [Arg.numbersPlan, Arg.numbersPlan]
  | ambient, .call f arguments => by
      rw [Arg.numbersPlan, Arg.numbersPlan, Arg.plans_congr h ambient arguments]
  | _, .range r => by
      rw [Arg.numbersPlan, Arg.numbersPlan, h.cellsOf, funext (h.numbersPlan _)]
  | _, .cell c => by rw [Arg.numbersPlan, Arg.numbersPlan, h.numbersPlan]
  | _, .number _ _ => by rw [Arg.numbersPlan, Arg.numbersPlan]
  | ambient, .other e _ => by
      rw [Arg.numbersPlan, Arg.numbersPlan, Expr.plan_congr h ambient e]

/-- An argument that is read for its texts has the same plan in both grids. -/
theorem Arg.textsPlan_congr {g g' : Grid} (h : g.SamePlans g') :
    (ambient : Ambient) → (a : Arg) → a.textsPlan g ambient = a.textsPlan g' ambient
  | _, .plain _ => by rw [Arg.textsPlan, Arg.textsPlan]
  | ambient, .call f arguments => by
      rw [Arg.textsPlan, Arg.textsPlan, Arg.plans_congr h ambient arguments]
  | _, .range r => by rw [Arg.textsPlan, Arg.textsPlan, h.cellsOf, funext (h.textsPlan _)]
  | _, .cell c => by rw [Arg.textsPlan, Arg.textsPlan, h.textsPlan]
  | _, .number _ _ => by rw [Arg.textsPlan, Arg.textsPlan]
  | _, .other _ _ => by rw [Arg.textsPlan, Arg.textsPlan]

/-- Arguments have the same plans in both grids, one by one. -/
theorem Arg.plans_congr {g g' : Grid} (h : g.SamePlans g') :
    (ambient : Ambient) → (arguments : List Arg) →
    Arg.plans g ambient arguments = Arg.plans g' ambient arguments
  | _, [] => by rw [Arg.plans, Arg.plans]
  | ambient, a :: rest => by
      rw [Arg.plans, Arg.plans, Arg.numbersPlan_congr h _ a, Arg.textsPlan_congr h _ a,
        Arg.plans_congr h (ambient.toward .next) rest]

end

/-- With a formula in place of another the plans are the same. -/
theorem Grid.samePlans_put {g : Grid} {d : CellRef} {raw raw' : String}
    (hraw : g.text? d = some raw) (hformula : isFormula raw) (hformula' : isFormula raw') :
    g.SamePlans (g.put d raw') := by
  have hd : g.contains d := by rw [← isSome_text?, hraw, Option.isSome_some]
  have htext := text?_put hd raw'
  -- A formula stands in the cell before and after, so a plan enters it in both grids.
  refine ⟨fun r => (cellsOf_put g d raw' r).symm, fun draws c => ?_, fun draws c => ?_⟩
  · rw [numbersPlan, numbersPlan, valuePlan, valuePlan, htext]
    by_cases hc : c = d
    · rw [if_pos hc, hc, hraw]
      simp only [if_pos hformula, if_pos hformula']
    · rw [if_neg hc]
  · rw [textsPlan, textsPlan, htext]
    by_cases hc : c = d
    · rw [if_pos hc, hc, hraw]
    · rw [if_neg hc]

/-! ## Writing one formula in place of another -/

namespace Context

/-- Inside a cell, a steady context is steady. -/
theorem Steady.inside {ctx : Context} (h : ctx.Steady) (c : CellRef) : (ctx.inside c).Steady := by
  intro turn
  show (ctx.ambient.toward (.inside c)).toward turn = ctx.ambient.toward (.inside c)
  rw [h (.inside c), h turn]

/-- In a steady context all cells are entered from one place, so a formula is evaluated by following
its plan from there. -/
theorem Steady.evaluate_eq_run {ctx : Context} (h : ctx.Steady) (formula : String) :
    ctx.evaluate formula
      = ((Expr.ofFormula formula).plan ctx.grid ctx.ambient).run fun _ => ctx.enter := by
  let env : Surroundings := { ctx.surroundings with enterAt := fun _ => ctx.enter }
  -- The only draws that are met are those of the context.
  let W : Draws → Draws → Prop := fun draws draws' =>
    draws = ctx.ambient.draw ∧ draws' = ctx.ambient.draw
  have hturn : ∀ turn, ctx.ambient.draw.toward turn = ctx.ambient.draw :=
    fun turn => congrArg Ambient.draw (h turn)
  have hW : Draws.KeptByTurns W := by
    rintro _ _ turn ⟨rfl, rfl⟩
    exact ⟨hturn turn, hturn turn⟩
  have hambient : ctx.surroundings.ambient.Related W env.ambient := ⟨rfl, rfl, rfl⟩
  have hsame : (Expr.ofFormula formula).eval ctx.surroundings
      = (Expr.ofFormula formula).eval env := by
    refine Expr.eval_congr (R := (· = ·)) hW hambient (fun _ => rfl) _
      (fun p _ => ?_) fun f _ => f.respects_of_eq ?_
    · refine Place.readsAlike_of_cells (fun _ => rfl) rfl fun c _ => ⟨rfl, ?_⟩
      rintro _ _ ⟨rfl, rfl⟩
      rfl
    · rintro _ _ ⟨rfl, rfl⟩
      rfl
  have hcircular : OnlyCircular env.enterAt := fun _ c why hc => exists_of_enter_error hc
  exact hsame.trans (Expr.eval_eq_run env hcircular _)

/-- Every formula has the same outcome in two steady contexts in which the cells have. -/
theorem evaluate_sameButCell {ctx : Context} (hsteady : ctx.Steady) {g' : Grid}
    (hplans : ctx.grid.SamePlans g')
    (hcells : ∀ c, SameButCell (ctx.enter c) ((ctx.withGrid g').enter c)) (formula : String) :
    SameButCell (ctx.evaluate formula) ((ctx.withGrid g').evaluate formula) := by
  have hsteady' : (ctx.withGrid g').Steady := hsteady
  rw [hsteady.evaluate_eq_run, hsteady'.evaluate_eq_run, Expr.plan_congr hplans]
  exact Plan.run_sameButCell (fun _ => hcells) _

/-- Every cell has the same outcome as before, if the formula written into one of them has the
outcomes of the formula that was there. -/
theorem enter_put_formula {ctx : Context} (hsteady : ctx.Steady) {d : CellRef} {raw raw' : String}
    (hraw : ctx.grid.text? d = some raw) (hformula : isFormula raw) (hformula' : isFormula raw')
    (halike : ∀ ctx : Context, ctx.Steady → SameButCell (ctx.evaluate raw) (ctx.evaluate raw'))
    (c : CellRef) : SameButCell (ctx.enter c) ((ctx.withGrid (ctx.grid.put d raw')).enter c) := by
  induction ctx using Context.induction generalizing c with
  | step ctx ih =>
      have hd : ctx.grid.contains d := by rw [← Grid.isSome_text?, hraw, Option.isSome_some]
      have htext := Grid.text?_put hd raw'
      by_cases hpath : c ∈ ctx.path
      · have hpath' : c ∈ (ctx.withGrid (ctx.grid.put d raw')).path := hpath
        rw [enter_of_mem hpath, enter_of_mem hpath']
        exact Or.inl rfl
      have hpath' : c ∉ (ctx.withGrid (ctx.grid.put d raw')).path := hpath
      by_cases hholds : ctx.grid.holdsFormula c
      · have hplans : (ctx.inside c).grid.SamePlans (ctx.grid.put d raw') :=
          Grid.samePlans_put hraw hformula hformula'
        -- Inside the cell, any formula has the same outcome by hypothesis.
        have hinside := evaluate_sameButCell (hsteady.inside c) hplans
          (ih c hpath hholds (ctx.inside c).ambient.draw (hsteady.inside c) hraw)
        have hholds' : (ctx.grid.put d raw').holdsFormula c := by
          rw [Grid.holdsFormula_eq] at hholds ⊢
          rw [htext]
          split
          · exact hformula'
          · exact hholds
        rw [enter_formula hpath hholds, enter_formula hpath' hholds']
        show SameButCell ((ctx.inside c).evaluate ((ctx.grid.text? c).getD ""))
          (((ctx.inside c).withGrid (ctx.grid.put d raw')).evaluate
            (((ctx.grid.put d raw').text? c).getD ""))
        rw [htext]
        by_cases hc : c = d
        · subst hc
          rw [if_pos rfl, hraw]
          exact (hinside raw).trans (halike _ (hsteady.inside c))
        · rw [if_neg hc]
          exact hinside _
      · -- A text that is no formula stands in another cell.
        have hc : c ≠ d := by
          rintro rfl
          apply hholds
          rw [Grid.holdsFormula_eq, hraw]
          exact hformula
        have hsame : (ctx.grid.put d raw').text? c = ctx.grid.text? c := by rw [htext, if_neg hc]
        have hholds' : ¬ (ctx.grid.put d raw').holdsFormula c := by
          rw [Grid.holdsFormula_eq, hsame, ← Grid.holdsFormula_eq]
          exact hholds
        rw [enter_literal hpath hholds, enter_literal hpath' hholds']
        left
        show _ = Except.ok (Value.text (((ctx.grid.put d raw').text? c).getD ""))
        rw [hsame]

end Context

/-- A formula may be written in place of another that has the same outcomes in every steady context,
up to the cell that a circular reference names: every cell shows what it showed before. -/
theorem Grid.settled_put {g : Grid} {d : CellRef} {raw raw' : String} (hraw : g.text? d = some raw)
    (hformula : isFormula raw) (hformula' : isFormula raw')
    (halike : ∀ ctx : Context, ctx.Steady → SameButCell (ctx.evaluate raw) (ctx.evaluate raw'))
    {ambient : Ambient} (hsteady : (g.context ambient).Steady) (c : CellRef) :
    ((g.put d raw').context ambient).settled c = (g.context ambient).settled c := by
  rw [Context.settled_fresh, Context.settled_fresh]
  have hsame : SameButCell ((g.context ambient).enter c)
      (((g.context ambient).withGrid (g.put d raw')).enter c) :=
    Context.enter_put_formula hsteady hraw hformula hformula' halike c
  exact (Context.settle_congr hsame).symm

end FormulaTable
