import FormulaTable.Proofs.Evaluation.PathIndependence
import FormulaTable.Proofs.Table.Notice

/-!
# `FormulaTable.Proofs.Table.Views`: a table shows its cells one by one as it shows them together

The text that a cell shows is asked for in two ways: of one cell (`Table.display`), and of all cells
at once (`Table.displayRows`). The first way looks at the bounds of the grid and at the focus for
each cell. The second one takes what the grid shows and puts the raw text of the focused cell in its
place.

`Table.displayRows_eq` says that both come to the same: the rows are those of `display`, taken at
every cell of the grid. Nothing is asked of the focus, which no change to the grid moves
(`Table.focused_after`): it may lie outside the grid from the beginning, be left outside when rows
or columns are removed, and come to lie inside again. `Table.views_agree` reads this off entry by
entry.
-/

set_option autoImplicit false

namespace FormulaTable

/-! ## Rectangles of texts -/

/-- The entry of a list of rows at the place of a cell, if there is one. -/
def entryAt? (rows : List (List String)) (cell : CellRef) : Option String :=
  rows[cell.row]?.bind fun row => row[cell.col]?

/-- The texts of all cells in a number of rows and columns, row by row. -/
def tabulate (rows cols : Nat) (text : CellRef → String) : List (List String) :=
  (List.range rows).map fun row => (List.range cols).map fun col => text ⟨row, col⟩

section
variable {rows cols : Nat} {text text' : CellRef → String}

/-- A tabulation has the rows asked for. -/
theorem length_tabulate : (tabulate rows cols text).length = rows := by
  rw [tabulate, List.length_map, List.length_range]

/-- Each row has the columns asked for. -/
theorem length_of_mem_tabulate {row : List String} (h : row ∈ tabulate rows cols text) :
    row.length = cols := by
  obtain ⟨i, -, rfl⟩ := List.mem_map.mp h
  rw [List.length_map, List.length_range]

/-- An entry is the text of its cell, and there is none elsewhere. -/
theorem entryAt?_tabulate (cell : CellRef) :
    entryAt? (tabulate rows cols text) cell
      = if cell.row < rows ∧ cell.col < cols then some (text cell) else none := by
  rw [entryAt?, tabulate, List.getElem?_map]
  by_cases hrow : cell.row < rows
  · rw [List.getElem?_range hrow, Option.map_some, Option.bind_some, List.getElem?_map]
    by_cases hcol : cell.col < cols
    · rw [List.getElem?_range hcol, if_pos ⟨hrow, hcol⟩]
      rfl
    · rw [List.getElem?_eq_none (by simpa using hcol), if_neg fun h => hcol h.2]
      rfl
  · rw [List.getElem?_eq_none (by simpa using hrow), if_neg fun h => hrow h.1]
    rfl

/-- Only the texts of the cells in the rectangle matter. -/
theorem tabulate_congr
    (h : ∀ cell : CellRef, cell.row < rows → cell.col < cols → text cell = text' cell) :
    tabulate rows cols text = tabulate rows cols text' := by
  apply List.map_congr_left
  intro row hrow
  apply List.map_congr_left
  intro col hcol
  exact h ⟨row, col⟩ (List.mem_range.mp hrow) (List.mem_range.mp hcol)

/-- Putting another text in one place changes the text of that cell and of no other one. -/
theorem modify_tabulate (cell : CellRef) (raw : String) :
    (tabulate rows cols text).modify cell.row (fun row => row.set cell.col raw)
      = tabulate rows cols fun c => if c = cell then raw else text c := by
  obtain ⟨row, col⟩ := cell
  refine List.ext_getElem (by simp [tabulate]) ?_
  intro i hi hi'
  rw [List.getElem_modify]
  refine List.ext_getElem (by split <;> simp [tabulate]) ?_
  intro j hj hj'
  -- Only the row of the cell is changed, and in it only one entry.
  by_cases hrow : row = i
  · by_cases hcol : col = j <;> simp [tabulate, hrow, hcol, CellRef.mk.injEq, eq_comm]
  · simp [tabulate, hrow, Ne.symm hrow]

end

namespace Grid

/-- The rows of a grid tabulate what its cells show. -/
theorem displayRows_eq_tabulate (g : Grid) (ambient : Ambient) :
    g.displayRows ambient = tabulate g.rowCount g.colCount (g.displayText ambient) :=
  rfl

/-- As many rows and columns as a grid has, have an entry for each cell of the grid. -/
theorem entryAt?_tabulate_counts (g : Grid) (text : CellRef → String) (cell : CellRef) :
    entryAt? (tabulate g.rowCount g.colCount text) cell
      = if g.contains cell then some (text cell) else none := by
  rw [entryAt?_tabulate]
  simp only [contains_iff]

end Grid

/-! ## Where the focus is -/

/-- Where the focus is after an operation. Only focusing, leaving the focus and reading the table
back have an effect on it. -/
def Operation.refocus (focused : Option CellRef) : Operation → Option CellRef
  | .focus cell => some cell
  | .blur => none
  | .reload => none
  | _ => focused

namespace Table

/-- An operation moves the focus or leaves it where it is. -/
theorem focused_apply (t : Table) (operation : Operation) :
    (t.apply operation).table.focused = operation.refocus t.focused := by
  have hshrink : ∀ smaller, (t.shrink smaller).table.focused = t.focused := by
    intro smaller
    obtain ⟨grid, hgrid⟩ := t.exists_grid_shrink smaller
    rw [hgrid]
  -- Edits act on the grid and leave the focus, also a focus on a cell they remove.
  cases operation with
  | set cell raw =>
      obtain ⟨grid, hgrid⟩ := t.exists_grid_set cell raw
      show (t.set cell raw).table.focused = t.focused
      rw [hgrid]
  | removeRow => exact hshrink _
  | removeColumn => exact hshrink _
  | focus cell => rfl
  | blur => rfl
  | addRow => rfl
  | addColumn => rfl
  | listen listener => rfl
  | reload => rfl

/-- The focus is where it was put last, whatever became of the grid since. -/
theorem focused_after (t : Table) (operations : List Operation) :
    (t.after operations).focused = operations.foldl Operation.refocus t.focused := by
  induction operations generalizing t with
  | nil => rfl
  | cons operation rest ih =>
      show ((t.apply operation).table.after rest).focused = _
      rw [ih, focused_apply, List.foldl_cons]

/-! ## What is shown -/

section
variable {t : Table} {ambient : Ambient} {cell : CellRef}

/-- Outside the grid nothing is shown. -/
theorem display_of_not_contains (h : ¬ t.grid.contains cell) : t.display ambient cell = "" := by
  rw [display, raw?, Grid.text?_of_not_contains h]

/-- A cell in the grid shows its raw text while it is edited. -/
theorem display_of_focused {raw : String} (hraw : t.raw? cell = some raw)
    (hfocused : t.focused = some cell) : t.display ambient cell = raw := by
  simp only [display, hraw]
  rw [if_pos hfocused]

/-- Any other cell in the grid shows what it shows without a focus. -/
theorem display_of_not_focused (h : t.grid.contains cell) (hfocused : t.focused ≠ some cell) :
    t.display ambient cell = t.grid.displayText ambient cell := by
  obtain ⟨raw, hraw⟩ := Option.isSome_iff_exists.mp ((t.grid.isSome_text? cell).trans h)
  simp only [display, raw?, hraw]
  rw [if_neg hfocused]

end

/-- All cells together show what they show one by one. -/
theorem displayRows_eq (t : Table) (ambient : Ambient) :
    t.displayRows ambient = tabulate t.grid.rowCount t.grid.colCount (t.display ambient) := by
  have hcontains : ∀ {cell : CellRef}, cell.row < t.grid.rowCount → cell.col < t.grid.colCount →
      t.grid.contains cell := fun hrow hcol => Grid.contains_iff.mpr ⟨hrow, hcol⟩
  simp only [displayRows, Grid.displayRows_eq_tabulate]
  split
  · next hfocused =>
      -- Without a focus both are what the grid shows.
      refine tabulate_congr fun cell hrow hcol => ?_
      rw [display_of_not_focused (hcontains hrow hcol) (by simp [hfocused])]
  · next focus hfocused =>
      split
      · next hraw =>
          -- The focus lies outside, so no cell of the grid has it.
          refine tabulate_congr fun cell hrow hcol => ?_
          have hcell := hcontains hrow hcol
          have hne : t.focused ≠ some cell := by
            intro heq
            obtain rfl : focus = cell := Option.some.inj (hfocused.symm.trans heq)
            rw [← Grid.isSome_text?, show t.grid.text? focus = none from hraw] at hcell
            cases hcell
          rw [display_of_not_focused hcell hne]
      · next raw hraw =>
          -- The text is put in one place, and that is the cell with the focus.
          rw [modify_tabulate]
          refine tabulate_congr fun cell hrow hcol => ?_
          by_cases hcell : cell = focus
          · rw [if_pos hcell, hcell, display_of_focused hraw hfocused]
          · have hne : t.focused ≠ some cell := by
              rw [hfocused]
              exact fun heq => hcell (Option.some.inj heq).symm
            rw [if_neg hcell, display_of_not_focused (hcontains hrow hcol) hne]

/-- The views of a table agree, however it was made and whatever has been done to it. All cells
together are shown in as many rows and columns as the grid has. The entry of a cell is what the cell
shows by itself; outside the grid there is no entry, and a cell shows nothing. The only entry that
may differ from what the grid shows without a focus is that of the focused cell: it is the raw text
of the cell. The focus is where it was put last, in the grid or outside. -/
theorem views_agree (t : Table) (operations : List Operation) (ambient : Ambient) :
    let now := t.after operations
    let shown := now.displayRows ambient
    shown.length = now.grid.rowCount ∧ (∀ row ∈ shown, row.length = now.grid.colCount) ∧
    (∀ cell, now.grid.contains cell → entryAt? shown cell = some (now.display ambient cell)) ∧
    (∀ cell, ¬ now.grid.contains cell →
      now.display ambient cell = "" ∧ entryAt? shown cell = none) ∧
    (∀ cell, entryAt? shown cell = if now.focused = some cell then now.raw? cell
      else entryAt? (now.grid.displayRows ambient) cell) ∧
    now.focused = operations.foldl Operation.refocus t.focused := by
  intro now shown
  have hshown : shown = tabulate now.grid.rowCount now.grid.colCount (now.display ambient) :=
    now.displayRows_eq ambient
  -- All of it is read off one entry.
  have hentry : ∀ cell, entryAt? shown cell
      = if now.grid.contains cell then some (now.display ambient cell) else none := by
    rw [hshown]
    exact now.grid.entryAt?_tabulate_counts (now.display ambient)
  refine ⟨?_, ?_, ?_, ?_, ?_, t.focused_after operations⟩
  · rw [hshown, length_tabulate]
  · intro row hrow
    rw [hshown] at hrow
    exact length_of_mem_tabulate hrow
  · intro cell hcell
    rw [hentry, if_pos hcell]
  · intro cell hcell
    refine ⟨display_of_not_contains hcell, ?_⟩
    rw [hentry, if_neg hcell]
  · intro cell
    rw [hentry, Grid.displayRows_eq_tabulate, Grid.entryAt?_tabulate_counts]
    by_cases hcell : now.grid.contains cell
    · rw [if_pos hcell, if_pos hcell]
      obtain ⟨raw, hraw⟩ := Option.isSome_iff_exists.mp ((now.grid.isSome_text? cell).trans hcell)
      by_cases hfocused : now.focused = some cell
      · rw [if_pos hfocused, display_of_focused hraw hfocused, raw?, hraw]
      · rw [if_neg hfocused, display_of_not_focused hcell hfocused]
    · -- Outside the grid there is nothing, focused or not.
      rw [if_neg hcell, if_neg hcell, raw?, Grid.text?_of_not_contains hcell, ite_self]

/-- A formula is being edited, and shown as such, when its row is removed. The focus stays behind,
where nothing is shown, and lies on a blank cell when there is a row again. -/
theorem views_agree_around_removal :
    let t : Table := { grid := .ofRows [["2", "=A1"], ["=A1+3", "x"]], config := {} }
    let edited := t.after [.focus ⟨1, 0⟩]
    let shorter := t.after [.focus ⟨1, 0⟩, .removeRow]
    let grown := t.after [.focus ⟨1, 0⟩, .removeRow, .addRow]
    (edited.grid.contains ⟨1, 0⟩ ∧ edited.display .morning ⟨1, 0⟩ = "=A1+3" ∧
      entryAt? (edited.displayRows .morning) ⟨1, 0⟩ = some "=A1+3") ∧
    (¬ shorter.grid.contains ⟨1, 0⟩ ∧ shorter.focused = some ⟨1, 0⟩ ∧
      shorter.display .morning ⟨1, 0⟩ = "" ∧
      entryAt? (shorter.displayRows .morning) ⟨1, 0⟩ = none) ∧
    (grown.grid.contains ⟨1, 0⟩ ∧ grown.focused = some ⟨1, 0⟩ ∧
      entryAt? (grown.displayRows .morning) ⟨1, 0⟩ = some "") := by
  intro t edited shorter grown
  obtain ⟨-, -, hin, -⟩ := t.views_agree [.focus ⟨1, 0⟩] .morning
  obtain ⟨-, -, -, hout, -, hfocus⟩ := t.views_agree [.focus ⟨1, 0⟩, .removeRow] .morning
  obtain ⟨-, -, hin', -, -, hfocus'⟩ := t.views_agree [.focus ⟨1, 0⟩, .removeRow, .addRow] .morning
  -- The same cell before the removal, after it, and in the row that was added in its place.
  have hedited : edited.grid.contains ⟨1, 0⟩ := by decide +kernel
  have hshorter : ¬ shorter.grid.contains ⟨1, 0⟩ := by decide +kernel
  have hgrown : grown.grid.contains ⟨1, 0⟩ := by decide +kernel
  have hraw : edited.display .morning ⟨1, 0⟩ = "=A1+3" := by decide +kernel
  have hblank : grown.display .morning ⟨1, 0⟩ = "" := by decide +kernel
  exact ⟨⟨hedited, hraw, (hin _ hedited).trans (congrArg some hraw)⟩,
    ⟨hshorter, hfocus, hout _ hshorter⟩, hgrown, hfocus',
    (hin' _ hgrown).trans (congrArg some hblank)⟩

end Table
end FormulaTable
