import FormulaTable.Evaluation.Context
import FormulaTable.Grid.Blob

/-!
# `FormulaTable.Table.Basic`: a table in a note

A note holds a table as a grid together with what its editor needs: the cell being edited, which
shows its raw text in place of its value, and a listener that is told the new blob after every
change.

`Table.apply` carries out one operation. It gives the table afterwards, the answer to whoever asked
for the operation, and the notices sent to the listener. What leaves the grid as it was sends no
notice, in particular writing the text that a cell already holds.
-/

set_option autoImplicit false

namespace FormulaTable

/-- A table in a note. -/
structure Table where
  grid : Grid
  /-- The size that the table falls back to. -/
  config : GridConfig
  /-- The cell being edited, which may lie outside the grid. -/
  focused : Option CellRef := none
  listener : Option Nat := none

/-- A message to a listener. -/
structure Notice where
  listener : Nat
  blob : String
  deriving DecidableEq, Repr

/-- What can be done to a table. -/
inductive Operation where
  | set (cell : CellRef) (raw : String)
  | focus (cell : CellRef)
  | blur
  | addRow
  | removeRow
  | addColumn
  | removeColumn
  /-- Put a listener in the place of the one before. -/
  | listen (listener : Nat)
  /-- Store the table and read it back. -/
  | reload
  deriving DecidableEq, Repr

/-- The answer to whoever asked for an operation. -/
inductive Answer where
  | done
  /-- The operation is carried out, or there was nothing to remove. -/
  | removed (carriedOut : Bool)
  /-- The cell lies outside the grid. -/
  | refused (e : OutOfBounds)
  deriving DecidableEq, Repr

/-- What an operation leads to. -/
structure Outcome where
  table : Table
  answer : Answer := .done
  notices : List Notice := []

namespace Table

/-- A blank table of the configured size. -/
def ofConfig (config : GridConfig) : Table :=
  { grid := .ofConfig config, config }

/-- The table stored in a blob. -/
def ofBlob (config : GridConfig) (blob : String) : Table :=
  { grid := .ofBlob config blob, config }

/-- The blob of a table. -/
def toBlob (t : Table) : String :=
  t.grid.toBlob

/-! ## What the table shows -/

/-- The raw text of a cell, if it lies in the grid. -/
def raw? (t : Table) (cell : CellRef) : Option String :=
  t.grid.text? cell

/-- Whether a cell holds a formula. -/
def holdsFormula (t : Table) (cell : CellRef) : Bool :=
  t.grid.holdsFormula cell

/-- The text that a cell shows: its raw text while it is edited, and nothing outside the grid. -/
def display (t : Table) (ambient : Ambient) (cell : CellRef) : String :=
  match t.raw? cell with
  | none => ""
  | some raw => if t.focused = some cell then raw else t.grid.displayText ambient cell

/-- The texts that all cells show, row by row. -/
def displayRows (t : Table) (ambient : Ambient) : List (List String) :=
  let shown := t.grid.displayRows ambient
  match t.focused with
  | none => shown
  | some cell =>
    match t.raw? cell with
    | none => shown
    | some raw => shown.modify cell.row fun row => row.set cell.col raw

/-! ## What can be done to it -/

/-- The notices that tell the listener, if there is one, of the table as it is. -/
def notices (t : Table) : List Notice :=
  match t.listener with
  | some listener => [{ listener, blob := t.toBlob }]
  | none => []

/-- The outcome of putting another grid in the place of the one before. -/
def change (t : Table) (grid : Grid) (answer : Answer) : Outcome :=
  let changed := { t with grid }
  { table := changed, answer, notices := changed.notices }

/-- Writes the raw text of a cell. -/
def set (t : Table) (cell : CellRef) (raw : String) : Outcome :=
  if t.raw? cell = some raw then { table := t }
  else
    match t.grid.set cell raw with
    | .ok grid => t.change grid .done
    | .error e => { table := t, answer := .refused e }

/-- Puts a smaller grid in the place of the one before, unless there is none. -/
def shrink (t : Table) (smaller : Option Grid) : Outcome :=
  match smaller with
  | some grid => t.change grid (.removed true)
  | none => { table := t, answer := .removed false }

/-- Carries out an operation. -/
def apply (t : Table) : Operation → Outcome
  | .set cell raw => t.set cell raw
  | .focus cell => { table := { t with focused := some cell } }
  | .blur => { table := { t with focused := none } }
  | .addRow => t.change t.grid.addRow .done
  | .removeRow => t.shrink t.grid.removeRow?
  | .addColumn => t.change t.grid.addColumn .done
  | .removeColumn => t.shrink t.grid.removeColumn?
  | .listen listener => { table := { t with listener := some listener } }
  | .reload => { table := ofBlob t.config t.toBlob }

end Table
end FormulaTable
