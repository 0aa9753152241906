import FormulaTable.Address.Range

/-!
# `FormulaTable.Grid.Basic`: the rectangle of raw texts

A grid holds the text of every cell of a table as it was typed. It has at least one row and one
column, and all its rows are equally wide; both facts are part of the type, so every operation
here keeps them.

A text that begins with `=` is a formula, every other text stands for itself.
-/

set_option autoImplicit false

namespace FormulaTable

/-- Whether a raw text is a formula. -/
def isFormula (raw : String) : Bool :=
  raw.toList.head? == some '='

/-- The size a table is given when nothing else decides it. -/
structure GridConfig where
  defaultRows : Nat := 3
  defaultCols : Nat := 3
  deriving DecidableEq, Repr

/-- A rectangle of raw texts, one row and one column at least. -/
structure Grid where
  /-- The rows from top to bottom, each from left to right. -/
  rows : List (List String)
  colCount : Nat
  rows_ne_nil : rows ≠ []
  colCount_pos : 0 < colCount
  length_of_mem : ∀ row ∈ rows, row.length = colCount
  deriving DecidableEq, Repr

/-- The refusal to write outside a grid. -/
structure OutOfBounds where
  /-- The cell that was to be written. -/
  cell : CellRef
  /-- The number of rows of the grid. -/
  rows : Nat
  cols : Nat
  deriving DecidableEq, Repr

/-- The wording of the refusal. -/
def OutOfBounds.message (e : OutOfBounds) : String :=
  "Cell " ++ e.cell.toText ++ " is outside the " ++ toString e.rows ++ "x" ++ toString e.cols ++
    " grid"

namespace Grid

/-- Two grids with the same rows are the same grid. -/
theorem eq_of_rows_eq {g h : Grid} (rows_eq : g.rows = h.rows) : g = h := by
  obtain ⟨rows, cols, ne_nil, _, length⟩ := g
  obtain ⟨rows', cols', _, _, length'⟩ := h
  obtain rfl : rows = rows' := rows_eq
  obtain ⟨row, rest, rfl⟩ := List.exists_cons_of_ne_nil ne_nil
  obtain rfl : cols = cols' := by
    rw [← length row List.mem_cons_self, length' row List.mem_cons_self]
  rfl

/-- The number of rows. -/
def rowCount (g : Grid) : Nat :=
  g.rows.length

/-- A grid has a row at least. -/
theorem rowCount_pos (g : Grid) : 0 < g.rowCount :=
  List.length_pos_iff.mpr g.rows_ne_nil

/-- The blank grid of a given size, with one row and one column at least. -/
def blank (rows cols : Nat) : Grid where
  rows := List.replicate (max rows 1) (List.replicate (max cols 1) "")
  colCount := max cols 1
  rows_ne_nil := by simp [List.replicate_eq_nil_iff]
  colCount_pos := by omega
  length_of_mem := by
    intro row h
    rw [List.eq_of_mem_replicate h, List.length_replicate]

/-- The blank grid of the configured size. -/
def ofConfig (config : GridConfig) : Grid :=
  blank config.defaultRows config.defaultCols

/-- The length of the longest row. -/
def widest (rows : List (List String)) : Nat :=
  rows.foldr (fun row most => max row.length most) 0

/-- No row is longer than the widest. -/
theorem length_le_widest {rows : List (List String)} {row : List String} (h : row ∈ rows) :
    row.length ≤ widest rows := by
  induction rows with
  | nil => simp at h
  | cons first rest ih =>
    simp only [widest, List.foldr_cons] at ih ⊢
    rcases List.mem_cons.mp h with rfl | h
    · omega
    · have := ih h; omega

/-- A row brought to a given width with blank cells on the right. -/
def padRow (width : Nat) (row : List String) : List String :=
  row ++ List.replicate (width - row.length) ""

/-- The grid with the given rows, the short ones padded to the longest; `none` if there is no
cell at all. -/
def ofRows? (rows : List (List String)) : Option Grid :=
  if h : 0 < widest rows then
    some {
      rows := rows.map (padRow (widest rows))
      colCount := widest rows
      rows_ne_nil := by
        rintro h'
        rw [List.map_eq_nil_iff] at h'
        simp [h', widest] at h
      colCount_pos := h
      length_of_mem := by
        intro row hrow
        obtain ⟨row', h', rfl⟩ := List.mem_map.mp hrow
        have := length_le_widest h'
        simp only [padRow, List.length_append, List.length_replicate]
        omega }
  else none

/-- The grid with the given rows, the short ones padded to the longest; without any cell, the
blank grid of one cell. -/
def ofRows (rows : List (List String)) : Grid :=
  (ofRows? rows).getD (blank 1 1)

/-- Whether a cell lies in the grid. -/
def contains (g : Grid) (cell : CellRef) : Bool :=
  cell.row < g.rowCount && cell.col < g.colCount

/-- The raw text of a cell, if it lies in the grid. -/
def text? (g : Grid) (cell : CellRef) : Option String := do
  let row ← g.rows[cell.row]?
  row[cell.col]?

/-- Whether a cell holds a formula. -/
def holdsFormula (g : Grid) (cell : CellRef) : Bool :=
  (g.text? cell).any isFormula

/-- The range from the first cell of a grid to its last. -/
def bounds (g : Grid) : CellRange :=
  .spanning ⟨0, 0⟩ ⟨g.rowCount - 1, g.colCount - 1⟩

/-- The part of a range that lies in the grid, if any does. -/
def clip (g : Grid) (range : CellRange) : Option CellRange :=
  range.intersect g.bounds

/-- All cells, row by row. -/
def coordinates (g : Grid) : List CellRef :=
  (List.range g.rowCount).flatMap fun row => (List.range g.colCount).map fun col => ⟨row, col⟩

/-- The grid with one raw text replaced; nothing changes for a cell outside. -/
def put (g : Grid) (cell : CellRef) (raw : String) : Grid where
  rows := g.rows.modify cell.row fun row => row.set cell.col raw
  colCount := g.colCount
  rows_ne_nil := by
    intro h
    exact g.rows_ne_nil (List.eq_nil_of_length_eq_zero (by simpa using congrArg List.length h))
  colCount_pos := g.colCount_pos
  length_of_mem := by
    intro row h
    obtain ⟨i, hi, rfl⟩ := List.getElem_of_mem h
    rw [List.length_modify] at hi
    rw [List.getElem_modify]
    have := g.length_of_mem g.rows[i] (List.getElem_mem hi)
    split
    · rw [List.length_set, this]
    · exact this

/-- Writes the raw text of a cell, which must lie in the grid. -/
def set (g : Grid) (cell : CellRef) (raw : String) : Except OutOfBounds Grid :=
  if g.contains cell then .ok (g.put cell raw)
  else .error { cell, rows := g.rowCount, cols := g.colCount }

/-- The grid with a blank row below. -/
def addRow (g : Grid) : Grid where
  rows := g.rows ++ [List.replicate g.colCount ""]
  colCount := g.colCount
  rows_ne_nil := by simp
  colCount_pos := g.colCount_pos
  length_of_mem := by
    intro row h
    rcases List.mem_append.mp h with h | h
    · exact g.length_of_mem row h
    · rw [List.mem_singleton.mp h, List.length_replicate]

/-- The grid without its last row; `none` if that is the only one. -/
def removeRow? (g : Grid) : Option Grid :=
  if h : 1 < g.rowCount then
    some {
      rows := g.rows.dropLast
      colCount := g.colCount
      rows_ne_nil := by
        intro h'
        have := congrArg List.length h'
        simp only [List.length_dropLast, List.length_nil] at this
        simp only [rowCount] at h
        omega
      colCount_pos := g.colCount_pos
      length_of_mem := fun row hrow => g.length_of_mem row (List.dropLast_subset _ hrow) }
  else none

/-- The grid with a blank column on the right. -/
def addColumn (g : Grid) : Grid where
  rows := g.rows.map (· ++ [""])
  colCount := g.colCount + 1
  rows_ne_nil := by simpa using g.rows_ne_nil
  colCount_pos := Nat.succ_pos _
  length_of_mem := by
    intro row h
    obtain ⟨row', h', rfl⟩ := List.mem_map.mp h
    simp [g.length_of_mem row' h']

/-- The grid without its last column; `none` if that is the only one. -/
def removeColumn? (g : Grid) : Option Grid :=
  if h : 1 < g.colCount then
    some {
      rows := g.rows.map List.dropLast
      colCount := g.colCount - 1
      rows_ne_nil := by simpa using g.rows_ne_nil
      colCount_pos := by omega
      length_of_mem := by
        intro row hrow
        obtain ⟨row', h', rfl⟩ := List.mem_map.mp hrow
        simp [g.length_of_mem row' h'] }
  else none

end Grid
end FormulaTable
