import FormulaTable.Proofs.Evaluation.Escape
import FormulaTable.Proofs.Evaluation.PathIndependence
import FormulaTable.Proofs.Evaluation.Undrawn

/-!
# `FormulaTable.Proofs.Evaluation.Preview`: a preview shows what the cell will show

`Context.preview` evaluates a text with nothing on the path. `Grid.displayText` evaluates the text
of a cell with the cell itself on the path. `Context.preview_eq_displayText` says that both show the
same for the text of a cell, although the preview may go through the cell once more before it meets
a circular reference.

One direction is `Context.enter_agrees` again: the preview has the shorter path, so it can only
succeed more often. For the other one the two evaluations are followed up to the point where they
part. They part only where the preview enters the cell itself, and if that succeeds, then the
cell has a value under a longer path, hence also on its own (`Context.enter_refusing`).

The cell on its own draws other numbers than the cell in the preview of itself. So the cell has to
show the same whatever is drawn.
-/

set_option autoImplicit false

namespace FormulaTable

/-- If cells keep their values from one side to the other, or else `exit` holds, then so does an
evaluation. -/
theorem Plan.run_ok_or {α : Type} {visit visit' : Draws → CellRef → Except Fault Value}
    {exit : Prop}
    (h : ∀ draws c value, visit draws c = .ok value → visit' draws c = .ok value ∨ exit)
    {p : Plan α} {a : α} (hrun : p.run visit = .ok a) : p.run visit' = .ok a ∨ exit := by
  -- Along the plan: the two visits agree on every cell that is entered, or the run has left.
  induction p with
  | done b => exact Or.inl hrun
  | refuse why => simp at hrun
  | enter draws cell next ih =>
      rw [run_enter] at hrun ⊢
      cases hcell : visit draws cell with
      | error why =>
          simp [hcell, Except.bind] at hrun
      | ok value =>
          rw [hcell] at hrun
          rcases h draws cell value hcell with hcell' | hexit
          · rw [hcell']
            exact ih value hrun
          · exact Or.inr hexit

namespace Context

/-- The context in which one more cell is refused. -/
def refusing (ctx : Context) (cell : CellRef) : Context :=
  { ctx with path := ctx.path.insert cell }

/-- The order in which two cells are put on the path does not matter. -/
theorem extends_refusing_swap (ctx : Context) (c d : CellRef) :
    ((ctx.inside d).refusing c).Extends ((ctx.refusing c).inside d) where
  grid := rfl
  ambient := rfl
  path other hother := by
    simp only [inside, refusing, Path.mem_insert] at hother ⊢
    exact or_left_comm.mp hother

/-- With one more cell refused, the path is longer. -/
theorem extends_of_refusing (ctx : Context) (c : CellRef) : (ctx.refusing c).Extends ctx where
  grid := rfl
  ambient := rfl
  path _ hd := Path.mem_insert.mpr (Or.inr hd)

/-- A value found with a cell off the path is found with the cell on the path as well, unless the
cell has been entered on the way, and with success. Then the cell has a value on its own, for what
was drawn there. -/
theorem enter_refusing {ctx : Context} {c d : CellRef} {value : Value}
    (h : ctx.enter d = .ok value) :
    (ctx.refusing c).enter d = .ok value ∨
      ∃ draws own, (ctx.grid.context ctx.ambient).enterAt draws c = .ok own := by
  induction ctx using Context.induction generalizing d value with
  | step ctx ih =>
      have hpath : d ∉ ctx.path := not_mem_of_enter_ok h
      by_cases hdc : d = c
      · -- The two evaluations part here.
        subst hdc
        exact Or.inr ⟨ctx.ambient.draw, value, (enter_agrees ctx.extends_fresh d).ok h⟩
      have hpath' : d ∉ (ctx.refusing c).path := by
        intro hmem
        rcases Path.mem_insert.mp hmem with heq | hmem
        · exact hdc heq
        · exact hpath hmem
      rw [enter_of_not_mem hpath']
      rw [enter_of_not_mem hpath] at h
      show ((ctx.grid.cellPlan ctx.ambient d).run ((ctx.refusing c).inside d).enterAt = _) ∨ _
      by_cases hformula : ctx.grid.holdsFormula d
      · have hinside : ∀ draws e found, (ctx.inside d).enterAt draws e = .ok found →
            ((ctx.inside d).refusing c).enterAt draws e = .ok found ∨
              ∃ draws own, (ctx.grid.context ctx.ambient).enterAt draws c = .ok own :=
          fun draws e found hfound => ih d hpath hformula draws hfound
        rcases Plan.run_ok_or hinside h with hrun | hown
        · -- The two cells have come to the path in different orders.
          have hswap := enterAt_agrees (ctx.extends_refusing_swap c d)
          exact Or.inl ((Plan.run_agrees hswap _).ok hrun)
        · exact Or.inr hown
      · left
        rw [Grid.cellPlan, if_neg hformula] at h ⊢
        exact h

section
variable {g : Grid} {c : CellRef} {raw : String}

/-- At the place inside a formula cell, the text of the cell follows the plan of the cell. -/
theorem evaluate_eq_run_cellPlan (ctx : Context) (hraw : ctx.grid.text? c = some raw)
    (hformula : isFormula raw) :
    (ctx.toward (.inside c)).evaluate raw
      = (ctx.grid.cellPlan ctx.ambient c).run (ctx.toward (.inside c)).enterAt := by
  have hholds : ctx.grid.holdsFormula c = true := by simp [Grid.holdsFormula, hraw, hformula]
  rw [evaluate_eq_run, Grid.cellPlan, if_pos hholds, Grid.formulaAt, hraw]
  rfl

/-- A cell has the outcome of its text at the place inside it, or else it is a circular
reference. -/
theorem enter_agrees_evaluate (ctx : Context) (hraw : ctx.grid.text? c = some raw)
    (hformula : isFormula raw) :
    AgreesOrCircular (ctx.enter c) ((ctx.toward (.inside c)).evaluate raw) := by
  by_cases hc : c ∈ ctx.path
  · exact Or.inr ⟨c, enter_of_mem hc⟩
  rw [enter_of_not_mem hc, evaluate_eq_run_cellPlan ctx hraw hformula]
  exact Plan.run_agrees (enterAt_agrees ((ctx.toward (.inside c)).extends_of_refusing c)) _

/-- A cell whose text has a value at the place inside it has a value itself, for some draws. -/
theorem exists_enter_of_evaluate {ambient : Ambient} (hraw : g.text? c = some raw)
    (hformula : isFormula raw) {value : Value}
    (h : ((g.context ambient).toward (.inside c)).evaluate raw = .ok value) :
    ∃ draws own, (g.context ambient).enterAt draws c = .ok own := by
  rw [evaluate_eq_run_cellPlan (g.context ambient) hraw hformula] at h
  have hinside : ∀ draws e found,
      ((g.context ambient).toward (.inside c)).enterAt draws e = .ok found →
      ((g.context ambient).inside c).enterAt draws e = .ok found ∨
        ∃ draws own, (g.context ambient).enterAt draws c = .ok own :=
    fun draws e found hfound => enter_refusing hfound
  rcases Plan.run_ok_or hinside h with hrun | hown
  · have hvalue := (enter_of_not_mem (not_mem_fresh g ambient c)).trans hrun
    exact ⟨ambient.draw, value, hvalue⟩
  · exact hown

/-- A formula cell shows the value of its text, whatever is drawn for either, if it shows the same
whatever is drawn. -/
theorem settle_evaluate_eq_settled {ambient : Ambient} (hraw : g.text? c = some raw)
    (hformula : isFormula raw) (hdrawn : (g.context ambient).Undrawn fun ctx => ctx.settled c)
    (draws : Draws) :
    settle (((g.context ambient).withDraws draws).evaluate raw)
      = (g.context ambient).settled c := by
  -- The draws of the preview are those inside the cell, for some draws in front of it.
  obtain ⟨whole, rfl⟩ := Draws.exists_toward (.inside c) draws
  have hshown : ∀ there, settle ((g.context ambient).enterAt there c)
      = (g.context ambient).settled c :=
    fun there => (settled_fresh g _ c).symm.trans (hdrawn there)
  have hraw' : ((g.context ambient).withDraws whole).grid.text? c = some raw := hraw
  rcases enter_agrees_evaluate _ hraw' hformula with heq | ⟨met, hmet⟩
  · exact (congrArg settle heq).symm.trans (hshown whole)
  · have hcircular : (g.context ambient).settled c = .sentinel .circular := by
      rw [← hshown whole, enterAt_eq, hmet]
      rfl
    rw [hcircular]
    -- The cell never has a value, so its text has none either.
    cases hevaluate : ((g.context ambient).withDraws (whole.toward (.inside c))).evaluate raw with
    | ok value =>
        have hevaluate' : ((g.context { ambient with draw := whole }).toward
            (.inside c)).evaluate raw = .ok value := hevaluate
        obtain ⟨there, own, hown⟩ := exists_enter_of_evaluate hraw hformula hevaluate'
        have hvalue : own = .sentinel .circular := by
          have hown' : (g.context ambient).enterAt there c = .ok own := hown
          have hsettled := hshown there
          rwa [hown', hcircular] at hsettled
        rw [hvalue] at hown
        exact absurd hown enter_ne_circular
    | error why =>
        obtain ⟨met', rfl⟩ := evaluate_error hevaluate
        rfl

/-- The preview of the text of a cell is what the cell shows, if the cell shows the same whatever is
drawn. More than that, a formula comes to the same value, and it is a circular reference on one side
exactly if it is one on the other. -/
theorem preview_eq_displayText (g : Grid) (ambient : Ambient) {c : CellRef} {raw : String}
    (hraw : g.text? c = some raw)
    (hdrawn : (g.context ambient).Undrawn fun ctx => ctx.settled c) (draws : Draws) :
    ((g.context ambient).withDraws draws).preview raw = g.displayText ambient c ∧
    (isFormula raw →
      settle (((g.context ambient).withDraws draws).evaluate raw)
        = (g.context ambient).settled c ∧
      ((∃ met, ((g.context ambient).withDraws draws).evaluate raw = .error (.circular met)) ↔
        ∃ met, (g.context ambient).enter c = .error (.circular met))) := by
  by_cases hformula : isFormula raw
  · have hsame := settle_evaluate_eq_settled hraw hformula hdrawn draws
    refine ⟨?_, fun _ => ⟨hsame, ?_⟩⟩
    · rw [preview, if_pos hformula, Grid.displayText, hsame]
    · rw [← settled_eq_circular, ← hsame, settle_eq_circular (evaluate_ne_circular _ _)]
  · refine ⟨?_, fun h => absurd h hformula⟩
    have hraw' : (g.context ambient).grid.text? c = some raw := hraw
    rw [preview, if_neg hformula, Grid.displayText, settled, hraw']
    show raw = (if isFormula raw then _ else Value.text raw).display
    rw [if_neg hformula]
    rfl

/-- Two cells that need each other: the preview of the first goes through both before it fails, the
cell itself fails earlier, and both show the same. -/
theorem preview_of_mutual_reference :
    let g := Grid.ofRows [["=B1", "=A1"]]
    g.text? ⟨0, 0⟩ = some "=B1" ∧
      ((g.context .morning).Undrawn fun ctx => ctx.settled ⟨0, 0⟩) ∧
      (∀ draws, ((g.context .morning).withDraws draws).preview "=B1"
        = g.displayText .morning ⟨0, 0⟩) ∧
      g.displayText .morning ⟨0, 0⟩ = "#REF!" := by
  intro g
  have hraw : g.text? ⟨0, 0⟩ = some "=B1" := by rfl
  have hgrid : g.DrawsNothing := Grid.drawsNothing_of_coordinates (by decide +kernel)
  have hdrawn : (g.context .morning).Undrawn fun ctx => ctx.settled ⟨0, 0⟩ :=
    undrawn_settled hgrid _
  exact ⟨hraw, hdrawn, fun draws => (preview_eq_displayText g .morning hraw hdrawn draws).1,
    by decide +kernel⟩

end

end Context
end FormulaTable
