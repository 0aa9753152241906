import FormulaTable.Proofs.Evaluation.Cycle
import FormulaTable.Proofs.Evaluation.Congruence
import FormulaTable.Proofs.Evaluation.Draws

/-!
# `FormulaTable.Proofs.Evaluation.Undrawn`: where nothing is drawn

`RAND` and `RANDBETWEEN` are the functions that draw (`Builtin.draws`). If no formula of a grid
calls one of them (`Grid.DrawsNothing`), then a cell has the same value from everywhere
(`Context.enterAt_eq_enter`), and what is asked of cells, of formulas and of arguments is
`Context.Undrawn`, as long as these do not draw themselves.

Whether a grid draws nothing can be seen from its texts (`Grid.drawsNothing_of_coordinates`).
-/

set_option autoImplicit false

namespace FormulaTable

namespace Builtin

/-- What holds of the two functions that draw holds of all that do. -/
theorem forall_draws {P : Builtin → Prop} (hrand : P .rand) (hbetween : P .randBetween)
    (f : Builtin) (hf : f.draws) : P f := by
  cases f with
  | rand => exact hrand
  | randBetween => exact hbetween
  | _ => cases hf

/-- Looking at two functions decides what holds of all that draw. -/
instance {P : Builtin → Prop} [DecidablePred P] : Decidable (∀ f : Builtin, f.draws → P f) :=
  decidable_of_iff (P .rand ∧ P .randBetween)
    ⟨fun h f hf => forall_draws h.1 h.2 f hf, fun h => ⟨h .rand rfl, h .randBetween rfl⟩⟩

end Builtin

namespace Grid

/-- A formula of the grid calls a function, at some depth. -/
def Calls (g : Grid) (f : Builtin) : Prop :=
  ∃ x, g.holdsFormula x ∧ (g.formulaAt x).calls f

/-- A list of cells is enough to see that a function is not called. -/
theorem not_calls_of_coordinates {g : Grid} {f : Builtin}
    (h : ∀ x ∈ g.coordinates, (g.formulaAt x).calls f = false) : ¬ g.Calls f := by
  rintro ⟨x, hformula, hcalls⟩
  rw [h x (mem_coordinates_of_holdsFormula hformula)] at hcalls
  cases hcalls

/-- No formula of the grid calls a function that draws. -/
def DrawsNothing (g : Grid) : Prop :=
  ∀ f, f.draws → ¬ g.Calls f

/-- A list of cells is enough to see that nothing is drawn. -/
theorem drawsNothing_of_coordinates {g : Grid}
    (h : ∀ x ∈ g.coordinates, (g.formulaAt x).calls .rand = false ∧
      (g.formulaAt x).calls .randBetween = false) : g.DrawsNothing :=
  Builtin.forall_draws (not_calls_of_coordinates fun x hx => (h x hx).1)
    (not_calls_of_coordinates fun x hx => (h x hx).2)

/-- In a grid that draws nothing, the functions that a formula calls do not see the draws. -/
theorem DrawsNothing.respects {g : Grid} (h : g.DrawsNothing) {x : CellRef}
    (hx : g.holdsFormula x) {f : Builtin} (hf : (g.formulaAt x).calls f)
    (W : Draws → Draws → Prop) : f.Respects W (· = ·) := by
  refine Builtin.respects_of_not_draws ?_ W
  by_contra hdraws
  exact h f (by simpa using hdraws) ⟨x, hx, hf⟩

end Grid

/-- All draws are related. -/
def Draws.Any (_draws _draws' : Draws) : Prop :=
  True

/-- Whatever the draws are behind a turn, they are related. -/
theorem Draws.keptByTurns_any : Draws.KeptByTurns Draws.Any :=
  fun _ _ _ _ => trivial

namespace Context

/-- Other draws are other draws at the same time. -/
theorem related_withDraws (ctx : Context) (draws : Draws) :
    (ctx.withDraws draws).surroundings.ambient.Related Draws.Any ctx.surroundings.ambient where
  now := rfl
  draw := trivial

/-- In a grid that draws nothing, a cell has the same outcome from everywhere. -/
theorem enterAt_eq_enter {ctx : Context} (h : ctx.grid.DrawsNothing) (draws : Draws) (c : CellRef) :
    ctx.enterAt draws c = ctx.enter c := by
  induction ctx using Context.induction generalizing draws c with
  | step ctx ih =>
      refine enter_congr (W := Draws.Any) (R := (· = ·)) Draws.keptByTurns_any trivial
        (fun _ => rfl) rfl (fun hpath hformula p _ => ?_)
        fun hformula f hf => h.respects hformula hf _
      -- The cells that the formula reads are entered from inside the cell.
      refine Place.readsAlike_of_cells (fun _ => rfl) rfl fun d _ => ⟨rfl, ?_⟩
      exact fun there there' _ => ih c hpath hformula there' h there d

section
variable {ctx : Context} (h : ctx.grid.DrawsNothing)
include h

/-- In a grid that draws nothing, it makes no difference to a cell what is drawn. -/
theorem undrawn_enter (c : CellRef) : ctx.Undrawn fun ctx => ctx.enter c :=
  fun draws => enterAt_eq_enter h draws c

/-- The value read of a cell is undrawn. -/
theorem undrawn_cellValue? (c : CellRef) :
    ctx.Undrawn fun ctx => ctx.surroundings.cellValue? c := by
  intro draws
  have henter := undrawn_enter h c draws
  simp only [Surroundings.cellValue?, surroundings_grid, surroundings_enter] at henter ⊢
  rw [henter]
  rfl

/-- What a cell shows is undrawn. -/
theorem undrawn_settled (c : CellRef) : ctx.Undrawn fun ctx => ctx.settled c := by
  intro draws
  have henter : (ctx.withDraws draws).enter c = ctx.enter c := undrawn_enter h c draws
  show (ctx.withDraws draws).settled c = ctx.settled c
  rw [settled, settled, henter]
  rfl

/-- All places read alike, whatever is drawn. -/
theorem readsAlike_withDraws (draws : Draws) (p : Place) :
    p.ReadsAlike Draws.Any (· = ·) (ctx.withDraws draws).surroundings ctx.surroundings := by
  refine Place.readsAlike_of_cells (fun _ => rfl) rfl fun c _ => ⟨rfl, fun there there' _ => ?_⟩
  exact (enterAt_eq_enter h there c).trans (enterAt_eq_enter h there' c).symm

/-- The value of a formula is undrawn, if the formula does not draw either. -/
theorem undrawn_evaluate {formula : String}
    (hformula : ∀ f, f.draws → (Expr.ofFormula formula).calls f = false) :
    ctx.Undrawn fun ctx => ctx.evaluate formula := by
  intro draws
  refine Expr.eval_congr Draws.keptByTurns_any (ctx.related_withDraws draws) (fun _ => rfl) _
    (fun p _ => readsAlike_withDraws h draws p) fun f hf => Builtin.respects_of_not_draws ?_ _
  by_contra hdraws
  rw [hformula f (by simpa using hdraws)] at hf
  cases hf

section
variable {arguments : List String}
  (harguments : ∀ f, f.draws → Arg.anyCalls f (arguments.map Arg.ofString) = false)
include harguments

/-- Arguments are met alike whatever is drawn, if they do not draw either. -/
theorem undrawn_readings : ctx.Undrawn fun ctx => ctx.readings arguments := by
  intro draws
  refine Reading.eq_of_alike (Arg.readings_congr Draws.keptByTurns_any
    (ctx.related_withDraws draws) (fun _ => rfl) _ (fun p _ => readsAlike_withDraws h draws p)
    fun f hf => Builtin.respects_of_not_draws ?_ _)
  by_contra hdraws
  rw [harguments f (by simpa using hdraws)] at hf
  cases hf

/-- Every dialogue with such arguments is undrawn. -/
theorem undrawn_ask {α : Type} (q : Query α) : ctx.Undrawn fun ctx => ctx.ask arguments q :=
  (undrawn_readings h harguments).map q.run

/-- Every call with such arguments is undrawn, if the function does not draw either. -/
theorem undrawn_call {f : Builtin} (hf : f.draws = false) :
    ctx.Undrawn fun ctx => ctx.call f arguments := by
  intro draws
  have hreadings : (ctx.withDraws draws).readings arguments = ctx.readings arguments :=
    undrawn_readings h harguments draws
  have hnow : (ctx.withDraws draws).ambient.now = ctx.ambient.now := rfl
  show f.call _ ((ctx.withDraws draws).readings arguments) = f.call _ (ctx.readings arguments)
  rw [hreadings, Builtin.call, Builtin.call, Builtin.query_congr hf hnow]

end

end

end Context
end FormulaTable
