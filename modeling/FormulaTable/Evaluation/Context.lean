import FormulaTable.Evaluation.Expr
import FormulaTable.Evaluation.Path

/-!
# `FormulaTable.Evaluation.Context`: evaluating the cells of a table

A context is a grid, the world outside, and the path of cells being evaluated. `Context.enter`
gives the value of a cell: it refuses a cell on the path, and evaluates a formula with the cell put
on the path, at the place inside the cell. Every formula cell entered is a new one, so evaluation
ends.

Each reference starts from the path at its own place, so a cell may be needed any number of times
side by side; only a cell needed for its own value is refused. Nothing is remembered between
evaluations.

`Context.settled` is what a cell shows. It never fails: a circular reference has a sentinel too.
-/

set_option autoImplicit false

namespace FormulaTable

/-- Where an evaluation stands. -/
structure Context where
  grid : Grid
  ambient : Ambient
  path : Path := {}

namespace Context

/-- The context at a place with the given draws. -/
def withDraws (ctx : Context) (draws : Draws) : Context :=
  { ctx with ambient := { ctx.ambient with draw := draws } }

/-- The context inside a cell; a cell on the path is refused. -/
def descend (ctx : Context) (cell : CellRef) : Except Fault Context :=
  if cell ∈ ctx.path then .error (.circular cell)
  else .ok { ctx with ambient := ctx.ambient.toward (.inside cell), path := ctx.path.insert cell }

/-- Enters a cell for its value. A cell outside the grid is blank, and a text that is no formula is
its own value. -/
def enter (ctx : Context) (cell : CellRef) : Except Fault Value :=
  if _hcell : cell ∈ ctx.path then .error (.circular cell)
  else if _hformula : ctx.grid.holdsFormula cell then
    let e := Expr.ofFormula ((ctx.grid.text? cell).getD "")
    e.eval {
      grid := ctx.grid
      ambient := ctx.ambient.toward (.inside cell)
      enterAt := fun draws c =>
        enter ({ ctx with path := ctx.path.insert cell }.withDraws draws) c }
  else .ok (.text ((ctx.grid.text? cell).getD ""))
termination_by ctx.path.pending ctx.grid
decreasing_by exact Path.pending_insert_lt _hcell _hformula

/-- Enters a cell for its value, from a place with the given draws. -/
def enterAt (ctx : Context) (draws : Draws) (cell : CellRef) : Except Fault Value :=
  (ctx.withDraws draws).enter cell

/-- What a formula sees when it is evaluated in a context. -/
def surroundings (ctx : Context) : Surroundings :=
  { grid := ctx.grid, ambient := ctx.ambient, enterAt := ctx.enterAt }

/-- Entering a cell, in terms of the context inside it. -/
theorem enter_eq (ctx : Context) (cell : CellRef) :
    ctx.enter cell =
      (ctx.descend cell).bind fun inner =>
        if ctx.grid.holdsFormula cell then
          (Expr.ofFormula ((ctx.grid.text? cell).getD "")).eval inner.surroundings
        else .ok (.text ((ctx.grid.text? cell).getD "")) := by
  rw [enter, descend]
  by_cases hpath : cell ∈ ctx.path
  · simp [hpath, Except.bind]
  by_cases hformula : ctx.grid.holdsFormula cell
  · simp [hpath, hformula, surroundings, Except.bind]
    rfl
  · simp [hpath, hformula, Except.bind]

/-! ## Formulas and arguments in a context -/

/-- The value of a formula, written with or without the `=` in front. -/
def evaluate (ctx : Context) (formula : String) : Except Fault Value :=
  (Expr.ofFormula formula).eval ctx.surroundings

/-- The number that a raw text stands for, zero if for none. -/
def numberOf (ctx : Context) (raw : String) : Except Fault Float :=
  if isFormula raw then do return (← ctx.evaluate raw).number?.getD 0
  else .ok ((parseNumber raw.toList).getD 0)

/-- Arguments as a function meets them. -/
def readings (ctx : Context) (arguments : List String) : List Reading :=
  Arg.readings ctx.surroundings (arguments.map Arg.ofString)

/-- Asks arguments as a function would. -/
def ask {α : Type} (ctx : Context) (arguments : List String) (q : Query α) : Except Fault α :=
  q.run (ctx.readings arguments)

/-- Calls a function with arguments. -/
def call (ctx : Context) (f : Builtin) (arguments : List String) : Except Fault Value :=
  f.call ctx.ambient (ctx.readings arguments)

/-! ## What a cell shows -/

/-- The value shown for an outcome. -/
def settle : Except Fault Value → Value
  | .ok value => value
  | .error (.circular _) => .sentinel .circular
  | .error _ => .sentinel .failed

/-- The value that a cell shows. -/
def settled (ctx : Context) (cell : CellRef) : Value :=
  let raw := (ctx.grid.text? cell).getD ""
  if isFormula raw then settle (ctx.enter cell) else .text raw

/-- The text that a raw text would show in a context. -/
def preview (ctx : Context) (raw : String) : String :=
  if isFormula raw then (settle (ctx.evaluate raw)).display else raw

end Context

namespace Grid

/-- The context in which the cells of a grid are evaluated. -/
def context (g : Grid) (ambient : Ambient) : Context :=
  { grid := g, ambient }

/-- The text that a cell shows; empty outside the grid. -/
def displayText (g : Grid) (ambient : Ambient) (cell : CellRef) : String :=
  ((g.context ambient).settled cell).display

/-- The texts that all cells show, row by row. -/
def displayRows (g : Grid) (ambient : Ambient) : List (List String) :=
  (List.range g.rowCount).map fun row =>
    (List.range g.colCount).map fun col => g.displayText ambient ⟨row, col⟩

end Grid
end FormulaTable
