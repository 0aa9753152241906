import FormulaTable.Proofs.Evaluation.CellReading
import FormulaTable.Proofs.Grid.Shape

/-!
# `FormulaTable.Proofs.Evaluation.RangeReading`: a range is the list of its cells

A range argument is read by a walk over the part of it that lies in the grid.
`Context.range_as_cells` says that this is reading the addresses of the cells one by one: for
numbers the addresses of all its cells, however many lie outside the grid, and for texts those in
the grid. The two differ because a cell outside the grid gives no number but an empty text. Both
ways evaluate the cells anew, so what they come to has to be undrawn
(`Context.range_and_cells_differ_if_drawn`).

The cells that the walk visits are those of the range that the grid contains, in the same order
(`Grid.cellsOf_eq_filter`). Each of them is written as an address and read as an argument again,
which finds the same cell since a range that can be read ends below the last index
(`CellRange.lt_indexLimit_of_mem`).
-/

set_option autoImplicit false

namespace FormulaTable

/-- Nothing is gathered from items that give nothing, so they may be left out. -/
theorem gather_filter {α β : Type} {read : α → Except Fault (List β)} {keep : α → Bool}
    {items : List α} (hleft : ∀ item ∈ items, ¬ keep item → read item = .ok []) :
    gather read (items.filter keep) = gather read items := by
  refine (sameOutcome_eq.mp ?_).symm
  refine gather_filter_alike rfl (fun hxs hys => by rw [hxs, hys]) ?_ ?_
  · intro item _ _
    exact sameOutcome_eq.mpr rfl
  · intro item hitem hkeep
    exact ⟨[], hleft item hitem hkeep, rfl⟩

/-- Addresses of cells of a range that is read may be read as the cells. -/
theorem gather_toText {β : Type} {text : String} {r : CellRange}
    (h : CellRange.ofString? text = some r) {readText : String → Except Fault (List β)}
    {readCell : CellRef → Except Fault (List β)}
    (hread : ∀ c : CellRef, c.row + 1 < indexLimit → c.col + 1 < indexLimit →
      readText c.toText = readCell c)
    {cells : List CellRef} (hcells : ∀ c ∈ cells, c ∈ r.cells) :
    gather readText (cells.map CellRef.toText) = gather readCell cells := by
  rw [gather_map]
  refine gather_congr fun c hc => ?_
  obtain ⟨hrow, hcol⟩ := CellRange.lt_indexLimit_of_mem h (hcells c hc)
  exact hread c hrow hcol

namespace Context

section
variable (ctx : Context) {text : String} {r : CellRange} (h : CellRange.ofString? text = some r)
include h

/-- The numbers of a range come from the cells that it has in the grid. -/
theorem argumentNumbers_of_range : ctx.argumentNumbers text
    = gather (ctx.toward .numbers).surroundings.cellNumbers (ctx.grid.cellsOf r) := by
  rw [argumentNumbers, Arg.ofString, Arg.ofChars_of_range h, Arg.numbers]
  rfl

/-- The texts of a range come from the cells that it has in the grid. -/
theorem argumentTexts_of_range : ctx.argumentTexts text
    = gather (ctx.toward .texts).surroundings.cellTexts (ctx.grid.cellsOf r) := by
  rw [argumentTexts, Arg.ofString, Arg.ofChars_of_range h, Arg.texts]
  rfl

/-- In a steady context a range gives the numbers that the addresses of its cells give. -/
theorem Steady.ask_allNumbers_of_range {ctx : Context} (hsteady : ctx.Steady) :
    ctx.ask [text] .allNumbers = ctx.ask (r.cells.map CellRef.toText) .allNumbers := by
  rw [ask_allNumbers_singleton, hsteady.ask_allNumbers, ctx.argumentNumbers_of_range h,
    Grid.cellsOf_eq_filter, gather_toText h (fun _ => argumentNumbers_toText) fun c hc => hc]
  -- The cells that the grid does not contain are walked over in vain.
  refine gather_filter fun c _ hout => ?_
  exact Surroundings.cellNumbers_outside (Grid.text?_of_not_contains hout)

/-- In a steady context a range gives the texts that the addresses of its cells in the grid give. -/
theorem Steady.ask_allTexts_of_range {ctx : Context} (hsteady : ctx.Steady) :
    ctx.ask [text] .allTexts
      = ctx.ask ((r.cells.filter ctx.grid.contains).map CellRef.toText) .allTexts := by
  rw [ask_allTexts_singleton, hsteady.ask_allTexts, ctx.argumentTexts_of_range h,
    Grid.cellsOf_eq_filter, gather_toText h (fun _ => argumentTexts_toText)
      fun c hc => (List.mem_filter.mp hc).1]

/-- A range as an argument means its cells, one after the other, whatever is drawn for the range and
for the cells, if it makes no difference to what is read. The range gives the numbers that the
addresses of all its cells give, in the grid or not, and the texts that the addresses of its cells
in the grid give; it fails where they do, with the same circular reference. -/
theorem range_as_cells (draws draws' : Draws) :
    ((ctx.Undrawn fun ctx => ctx.ask [text] .allNumbers) →
      (ctx.Undrawn fun ctx => ctx.ask (r.cells.map CellRef.toText) .allNumbers) →
      (ctx.withDraws draws).ask [text] .allNumbers
        = (ctx.withDraws draws').ask (r.cells.map CellRef.toText) .allNumbers) ∧
    let inside := (r.cells.filter ctx.grid.contains).map CellRef.toText
    ((ctx.Undrawn fun ctx => ctx.ask [text] .allTexts) →
      (ctx.Undrawn fun ctx => ctx.ask inside .allTexts) →
      (ctx.withDraws draws).ask [text] .allTexts
        = (ctx.withDraws draws').ask inside .allTexts) := by
  -- It is enough to look at draws that are the same at every place.
  have hsteady : (ctx.withDraws (.constant 0)).Steady := steady_constant ctx 0
  constructor
  · intro hrange hcells
    exact hrange.related (P := (· = ·)) hcells (hsteady.ask_allNumbers_of_range h) draws draws'
  · intro inside hrange hcells
    exact hrange.related (P := (· = ·)) hcells (hsteady.ask_allTexts_of_range h) draws draws'

end

/-- The third row of the range lies below the grid. Its cells give no number, and they are left out
among the texts. -/
theorem range_as_cells_past_edge :
    let ctx := (Grid.ofRows [["1", "2"], ["=A1+B1", "yes"]]).context .morning
    CellRange.ofString? "B3:A2" = some (.spanning ⟨1, 0⟩ ⟨2, 1⟩) ∧
      ctx.ask ["B3:A2"] .allNumbers = .ok [3] ∧ ctx.ask ["B3:A2"] .allTexts = .ok ["3", "yes"] ∧
      ∀ draws draws',
        (ctx.withDraws draws).ask ["B3:A2"] .allNumbers
          = (ctx.withDraws draws').ask ["A2", "B2", "A3", "B3"] .allNumbers ∧
        (ctx.withDraws draws).ask ["B3:A2"] .allTexts
          = (ctx.withDraws draws').ask ["A2", "B2"] .allTexts := by
  intro ctx
  have hread : CellRange.ofString? "B3:A2" = some (.spanning ⟨1, 0⟩ ⟨2, 1⟩) := by decide +kernel
  have hcells : (CellRange.spanning ⟨1, 0⟩ ⟨2, 1⟩).cells.map CellRef.toText
      = ["A2", "B2", "A3", "B3"] := by decide +kernel
  have hinside : ((CellRange.spanning ⟨1, 0⟩ ⟨2, 1⟩).cells.filter ctx.grid.contains).map
      CellRef.toText = ["A2", "B2"] := by decide +kernel
  have hnumber : ctx.ask ["B3:A2"] .allNumbers = .ok [3] := eq_ok_of_toOption (by decide +kernel)
  have htext : ctx.ask ["B3:A2"] .allTexts = .ok ["3", "yes"] :=
    eq_ok_of_toOption (by decide +kernel)
  refine ⟨hread, hnumber, htext, fun draws draws' => ?_⟩
  obtain ⟨hnumbers, htexts⟩ := ctx.range_as_cells hread draws draws'
  rw [hcells] at hnumbers
  simp only [hinside] at htexts
  have hgrid : ctx.grid.DrawsNothing := Grid.drawsNothing_of_coordinates (by decide +kernel)
  have hrange : ∀ f, f.draws → Arg.anyCalls f (["B3:A2"].map Arg.ofString) = false := by
    decide +kernel
  exact ⟨hnumbers (undrawn_ask hgrid hrange _) (undrawn_ask hgrid (by decide +kernel) _),
    htexts (undrawn_ask hgrid hrange _) (undrawn_ask hgrid (by decide +kernel) _)⟩

/-- A cell that casts a die gives one number as a range and may give another as an address. -/
theorem range_and_cells_differ_if_drawn :
    let ctx := (Grid.ofRows [["=RANDBETWEEN(1,6)"]]).context .morning
    let other := ctx.withDraws (.constant 3)
    CellRange.ofString? "A1:A1" = some (.spanning ⟨0, 0⟩ ⟨0, 0⟩) ∧
      (CellRange.spanning ⟨0, 0⟩ ⟨0, 0⟩).cells.map CellRef.toText = ["A1"] ∧
      (ctx.withDraws (.constant 0)).ask ["A1:A1"] .allNumbers = .ok [1] ∧
      other.ask ["A1"] .allNumbers = .ok [4] ∧
      (ctx.withDraws (.constant 0)).ask ["A1:A1"] .allTexts = .ok ["1"] ∧
      other.ask ["A1"] .allTexts = .ok ["4"] ∧ ((4 : Float) == 1) = false := by
  intro ctx other
  refine ⟨by decide +kernel, by decide +kernel, ?_, ?_, ?_, ?_, by decide +kernel⟩
  all_goals exact eq_ok_of_toOption (by decide +kernel)

end Context
end FormulaTable
