import FormulaTable.Proofs.Evaluation.Congruence
import FormulaTable.Proofs.Evaluation.Cycle
import FormulaTable.Proofs.Grid.Shape

/-!
# `FormulaTable.Proofs.Evaluation.Edit`: an edit reaches only the cells that depend on it

A formula cell mentions the cells of the grid that its text names, singly or in a range
(`Grid.Mentions`). This is read off the text alone. `Grid.settled_set` says that writing a cell `d`
leaves the value of a cell `c` as it is, unless mentions lead from `c` to `d`; the new text may be a
formula, and it may be one that refers to `c`.

The two evaluations, before the edit and after it, are kept in step by `Context.enter_put`, an
induction over contexts. A cell from which no mentions lead to `d` is not `d` itself, so it has the
same text on both sides, and none of the cells that this text names leads to `d` either.
-/

set_option autoImplicit false

namespace FormulaTable

open Relation (ReflTransGen)

namespace Grid

/-- The text of a formula cell names a cell of the grid, or a range in which it lies. -/
def Mentions (g : Grid) (x y : CellRef) : Prop :=
  g.holdsFormula x ∧ g.contains y ∧ ∃ p ∈ (g.formulaAt x).places, y ∈ p.cells g

/-- A set of cells that holds all cells mentioned in it holds all cells that mentions lead to. -/
theorem mem_of_mentions_closed {g : Grid} {inSet : CellRef → Prop} {c d : CellRef} (hc : inSet c)
    (hclosed : ∀ x y, inSet x → g.Mentions x y → inSet y) (h : ReflTransGen g.Mentions c d) :
    inSet d := by
  induction h with
  | refl => exact hc
  | tail _ hmentions ih => exact hclosed _ _ ih hmentions

/-- From a cell outside the grid mentions lead nowhere. -/
theorem eq_of_mentions_of_not_contains {g : Grid} {c d : CellRef} (hc : ¬ g.contains c)
    (h : ReflTransGen g.Mentions c d) : c = d := by
  rcases h.cases_head with heq | ⟨y, hmentions, -⟩
  · exact heq
  · exact absurd (contains_of_holdsFormula hmentions.1) hc

/-- Places stand for the same cells after a cell has been written. -/
theorem cells_put (g : Grid) (d : CellRef) (raw : String) (p : Place) :
    p.cells (g.put d raw) = p.cells g := by
  cases p with
  | cell c => rfl
  | range r => exact cellsOf_put g d raw r

end Grid

namespace Context

/-- A cell from which no mentions lead to the cell written has the same outcome as before. -/
theorem enter_put {ctx : Context} {d : CellRef} (hd : ctx.grid.contains d) (raw : String)
    {c : CellRef} (hc : ¬ ReflTransGen ctx.grid.Mentions c d) :
    (ctx.withGrid (ctx.grid.put d raw)).enter c = ctx.enter c := by
  induction ctx using Context.induction generalizing c with
  | step ctx ih =>
      -- Such a cell is not the one written, and keeps its text.
      have htext : ∀ y, ¬ ReflTransGen ctx.grid.Mentions y d →
          (ctx.grid.put d raw).text? y = ctx.grid.text? y := by
        intro y hy
        have hne : y ≠ d := by
          rintro rfl
          exact hy .refl
        rw [Grid.text?_put hd, if_neg hne]
      refine enter_withGrid (fun _ => rfl) (by rw [htext c hc]) (fun hpath hformula p hp => ?_)
        fun _ f _ => f.respects_eq
      refine Place.readsAlike_of_cells (fun _ => rfl) (Grid.cells_put _ d raw p) fun y hy => ?_
      have hy' : y ∈ p.cells ctx.grid := by
        rw [← Grid.cells_put ctx.grid d raw p]
        exact hy
      -- What the formula names is mentioned, so it cannot lead to the cell written either.
      have hyd : ¬ ReflTransGen ctx.grid.Mentions y d := by
        intro hreach
        by_cases hin : ctx.grid.contains y
        · have hmentions : ctx.grid.Mentions c y := ⟨hformula, hin, p, hp, hy'⟩
          exact hc (hreach.head hmentions)
        · obtain rfl := Grid.eq_of_mentions_of_not_contains hin hreach
          exact hin hd
      refine ⟨htext y hyd, ?_⟩
      rintro draws _ rfl
      exact ih c hpath hformula draws hd hyd

end Context

namespace Grid

/-- Writing a cell of the grid succeeds, and it changes the value of no cell from which no mentions
lead to the cell written. In particular that cell is another one. -/
theorem settled_set (g : Grid) (ambient : Ambient) {c d : CellRef} (hd : g.contains d)
    (hc : ¬ ReflTransGen g.Mentions c d) (raw : String) :
    ∃ g', g.set d raw = .ok g' ∧ g'.text? d = some raw ∧
      (g'.context ambient).settled c = (g.context ambient).settled c := by
  refine ⟨g.put d raw, ?_, ?_, ?_⟩
  · rw [set, if_pos hd]
  · rw [text?_put hd, if_pos rfl]
  · rw [Context.settled_fresh, Context.settled_fresh]
    have henter : ((g.context ambient).withGrid (g.put d raw)).enter c
        = (g.context ambient).enter c := Context.enter_put hd raw hc
    exact congrArg Context.settle henter

/-- `A1` depends on `B1` and on the ranges of `C1`, but not on `A2`, though `A2` depends on it. So
`A2` may become any other formula. -/
theorem settled_set_beside :
    let g := Grid.ofRows [["=CONCAT(B1:C1)", "x", "=LEN(B1:B2)"], ["=A1", "y", ""]]
    g.contains ⟨1, 0⟩ ∧ ¬ ReflTransGen g.Mentions ⟨0, 0⟩ ⟨1, 0⟩ ∧
      ∃ g', g.set ⟨1, 0⟩ "=CONCAT(A1,A2)" = .ok g' ∧
        g'.text? ⟨1, 0⟩ = some "=CONCAT(A1,A2)" ∧
        (g'.context .morning).settled ⟨0, 0⟩ = (g.context .morning).settled ⟨0, 0⟩ := by
  intro g
  -- Mentions never lead from `A1` to the other cells of the first column.
  let reached : CellRef → Prop := fun c => c.col ≠ 0 ∨ c.row = 0
  have hclosed : ∀ x y, reached x → g.Mentions x y → reached y := by
    rintro x y hx ⟨hformula, -, p, hp, hy⟩
    have hall : ∀ x ∈ g.coordinates, reached x → ∀ p ∈ (g.formulaAt x).places,
        ∀ y ∈ p.cells g, reached y := by decide +kernel
    exact hall x (mem_coordinates_of_holdsFormula hformula) hx p hp y hy
  have hd : g.contains ⟨1, 0⟩ := by decide
  have hc : ¬ ReflTransGen g.Mentions ⟨0, 0⟩ ⟨1, 0⟩ := by
    intro h
    have hreached : reached ⟨1, 0⟩ := mem_of_mentions_closed (Or.inr rfl) hclosed h
    simp [reached] at hreached
  exact ⟨hd, hc, settled_set g .morning hd hc _⟩

-- A cell that is mentioned can change the value, here through a range.
example :
    let g := Grid.ofRows [["=CONCAT(B1:C1)", "x", ""]]
    (g.context .morning).settled ⟨0, 0⟩
      ≠ ((g.put ⟨0, 2⟩ "y").context .morning).settled ⟨0, 0⟩ := by
  decide +kernel

end Grid
end FormulaTable
