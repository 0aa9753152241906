import FormulaTable.Builtin.Call
import FormulaTable.Formula.Expr
import FormulaTable.Grid.Basic

/-!
# `FormulaTable.Evaluation.Expr`: the value of a formula

`Expr.eval` gives the value of a formula in its surroundings: a grid, the world outside, and a way
to enter other cells. How a cell is entered, and why that comes to an end, is decided elsewhere, so
evaluation is plain recursion on the form of the formula. Every part of a formula is evaluated at a
place of its own: `Surroundings.toward` are the surroundings behind a turn.

A cell has three readings. As the operand of a formula it is a number, zero if it is nothing else;
as an argument it gives its number, if it has one, or its text.
-/

set_option autoImplicit false

namespace FormulaTable

/-- What a formula sees while it is evaluated. -/
structure Surroundings where
  grid : Grid
  ambient : Ambient
  /-- Enters a cell for its value, from a place with the given draws. A cell outside the grid is
  blank when it is entered. -/
  enterAt : Draws → CellRef → Except Fault Value

namespace Surroundings

/-- Enters a cell for its value. -/
def enter (env : Surroundings) (c : CellRef) : Except Fault Value :=
  env.enterAt env.ambient.draw c

/-- What a part of a formula sees, behind a turn. -/
def toward (env : Surroundings) (turn : Turn) : Surroundings :=
  { env with ambient := env.ambient.toward turn }

/-! ## The readings of a cell -/

/-- The number of a cell as an operand. -/
def cellNumber (env : Surroundings) (c : CellRef) : Except Fault Float := do
  return (← env.enter c).number?.getD 0

/-- The value of a cell, if it lies in the grid. Only a formula has to be entered. -/
def cellValue? (env : Surroundings) (c : CellRef) : Except Fault (Option Value) :=
  match env.grid.text? c with
  | none => .ok none
  | some raw => if isFormula raw then some <$> env.enter c else .ok (some (.text raw))

/-- The numbers that a cell gives as an argument: one or none. -/
def cellNumbers (env : Surroundings) (c : CellRef) : Except Fault (List Float) := do
  return ((← env.cellValue? c).bind Value.number?).toList

/-- The text of a cell as an argument; empty outside the grid. -/
def cellText (env : Surroundings) (c : CellRef) : Except Fault String :=
  match env.grid.text? c with
  | none => .ok ""
  | some _ => Value.display <$> env.enter c

/-- The texts that a cell gives as an argument: exactly one. -/
def cellTexts (env : Surroundings) (c : CellRef) : Except Fault (List String) := do
  return [← env.cellText c]

/-- The cells of a range that lie in the grid, row by row. -/
def cellsOf (env : Surroundings) (r : CellRange) : List CellRef :=
  match env.grid.clip r with
  | some clipped => clipped.cells
  | none => []

/-- The number of an operand. -/
def operand (env : Surroundings) : Operand → Except Fault Float
  | .cell c => env.cellNumber c
  | .number n => .ok n

end Surroundings

/-! ## Arithmetic -/

/-- A number as a value, unless it is not finite. -/
def finiteValue (n : Float) : Value :=
  if n.isFinite then .number n else .sentinel .noValue

/-- The value of simple arithmetic. -/
def Operator.apply (operator : Operator) (left right : Float) : Value :=
  match operator with
  | .add => finiteValue (left + right)
  | .sub => finiteValue (left - right)
  | .mul => finiteValue (left * right)
  | .div => if right == 0 then .sentinel .divisionByZero else finiteValue (left / right)

/-! ## Formulas and arguments -/

/-- The numbers that the value of a call gives as an argument. A text gives none, even one that
spells a number. -/
def Value.callNumbers : Value → List Float
  | .number n => [n]
  | .boolean b => [truthNumber b]
  | .text _ => []
  | .sentinel _ => []

mutual

/-- The value of a formula. -/
def Expr.eval (env : Surroundings) : Expr → Except Fault Value
  | .call f arguments => Builtin.callNamed env.ambient f (Arg.readings env arguments)
  | .cell c => .number <$> env.cellNumber c
  | .arithmetic left operator right => do
    let l ← (env.toward .left).operand left
    let r ← (env.toward .right).operand right
    return operator.apply l r
  | .number n => .ok (.number n)
  | .formless => .ok (.sentinel .noValue)

/-- The numbers that an argument gives. What has no number is left out. -/
def Arg.numbers (env : Surroundings) : Arg → Except Fault (List Float)
  | .plain _ => .ok []
  | .call f arguments =>
    Value.callNumbers <$> Builtin.callNamed env.ambient f (Arg.readings env arguments)
  | .range r => gather env.cellNumbers (env.cellsOf r)
  | .cell c => env.cellNumbers c
  | .number n _ => .ok [n]
  | .other e _ => do return (← e.eval env).number?.toList

/-- The texts that an argument gives. A cell gives its text even if that is empty. -/
def Arg.texts (env : Surroundings) : Arg → Except Fault (List String)
  | .plain text => .ok [text]
  | .call f arguments => do
    return [(← Builtin.callNamed env.ambient f (Arg.readings env arguments)).display]
  | .range r => gather env.cellTexts (env.cellsOf r)
  | .cell c => env.cellTexts c
  | .number _ source => .ok [source]
  | .other _ source => .ok [source]

/-- Arguments as a function meets them, each reading at a place of its own. -/
def Arg.readings (env : Surroundings) : List Arg → List Reading
  | [] => []
  | a :: rest =>
    { numbers := fun _ => a.numbers (env.toward .numbers)
      texts := fun _ => a.texts (env.toward .texts) } ::
      Arg.readings (env.toward .next) rest

end

end FormulaTable
