import FormulaTable.Proofs.Address.Intersection
import FormulaTable.Proofs.Evaluation.Plan

/-!
# `FormulaTable.Proofs.Grid.Shape`: where a grid has texts, and how changes move them

A grid is seen through `Grid.text?`. `Grid.isSome_text?` says where it has texts, and
`Grid.text?_put`, `Grid.getD_text?_addRow` and `Grid.getD_text?_addColumn` say what becomes of them
when a cell is written or the grid grows by blank cells.

`Grid.cellsOf_eq_filter` describes the cells of a clipped range without clipping: they are the cells
of the range, in their order, as far as the grid contains them. So the cells of a range in a grid
are among those in any grid that contains it, and in the same order (`Grid.cellsOf_filter`). A range
keeps its first cell as long as it has any (`Grid.cellsOf_eq_nil`, `Grid.cellsOf_eq_cons`).

Clipping is what a range shares with the range of all cells of the grid (`Grid.mem_bounds`), so
`Grid.ranges_are_cell_sets` says of both at once that they are intersections of sets.
-/

set_option autoImplicit false

namespace FormulaTable

/-! ## The texts of a grid -/

namespace Grid

/-- A grid has a text wherever it contains a cell. -/
theorem isSome_text? (g : Grid) (c : CellRef) : (g.text? c).isSome = g.contains c := by
  simp only [text?, contains, rowCount, Option.bind_eq_bind]
  by_cases hrow : c.row < g.rows.length
  · have hlength : (g.rows[c.row]).length = g.colCount :=
      g.length_of_mem _ (List.getElem_mem hrow)
    rw [List.getElem?_eq_getElem hrow, Option.bind_some]
    by_cases hcol : c.col < g.colCount
    · rw [List.getElem?_eq_getElem (by omega)]
      simp [hrow, hcol]
    · rw [List.getElem?_eq_none (by omega)]
      simp [hcol]
  · rw [List.getElem?_eq_none (by omega)]
    simp [hrow]

/-- A grid contains the cells in its rows and columns. -/
theorem contains_iff {g : Grid} {c : CellRef} :
    g.contains c ↔ c.row < g.rowCount ∧ c.col < g.colCount := by
  simp [contains]

/-- There is no text outside the grid. -/
theorem text?_of_not_contains {g : Grid} {c : CellRef} (h : ¬ g.contains c) :
    g.text? c = none := by
  rw [← isSome_text?] at h
  exact Option.not_isSome_iff_eq_none.mp h

/-- The coordinates of a grid are those of the cells it contains. -/
theorem mem_coordinates {g : Grid} {c : CellRef} : c ∈ g.coordinates ↔ g.contains c := by
  obtain ⟨row, col⟩ := c
  simp only [coordinates, contains_iff, List.mem_flatMap, List.mem_map, List.mem_range,
    CellRef.mk.injEq]
  constructor
  · rintro ⟨row', hrow, col', hcol, rfl, rfl⟩
    exact ⟨hrow, hcol⟩
  · rintro ⟨hrow, hcol⟩
    exact ⟨row, hrow, col, hcol, rfl, rfl⟩

/-- The coordinates of a grid are listed row by row, none of them twice. -/
theorem pairwise_coordinates (g : Grid) : g.coordinates.Pairwise CellRef.Before :=
  CellRef.pairwise_before List.pairwise_lt_range List.pairwise_lt_range

/-- A formula cell lies in the grid. -/
theorem contains_of_holdsFormula {g : Grid} {c : CellRef} (h : g.holdsFormula c) :
    g.contains c := by
  cases hc : g.contains c with
  | true => rfl
  | false =>
      have hnone : g.text? c = none := text?_of_not_contains (by simp [hc])
      simp [holdsFormula, hnone] at h

/-- Writing a cell changes the text of that cell only. -/
theorem text?_put {g : Grid} {d : CellRef} (hd : g.contains d) (raw : String) (c : CellRef) :
    (g.put d raw).text? c = if c = d then some raw else g.text? c := by
  obtain ⟨hrow, hcol⟩ := contains_iff.mp hd
  simp only [text?, put, Option.bind_eq_bind, List.getElem?_modify]
  by_cases hc : c = d
  · subst hc
    have hrow' : c.row < g.rows.length := hrow
    have hlength : g.rows[c.row].length = g.colCount :=
      g.length_of_mem _ (List.getElem_mem hrow')
    have hcol' : c.col < g.rows[c.row].length := by omega
    simp [List.getElem?_eq_getElem hrow', hcol']
  · rw [if_neg hc]
    cases hget : g.rows[c.row]? with
    | none => rfl
    | some row =>
        by_cases hsame : d.row = c.row
        · -- The row is the one written to, so the cell stands in another column.
          have hcol' : d.col ≠ c.col := fun heq =>
            hc (by cases c; cases d; simp_all)
          simp [hsame, hcol']
        · simp [hsame]

/-- Writing a cell leaves the number of rows as it is. -/
@[simp] theorem rowCount_put (g : Grid) (d : CellRef) (raw : String) :
    (g.put d raw).rowCount = g.rowCount := by
  simp only [rowCount, put, List.length_modify]

/-- Writing a cell leaves the cells of a range as they are. -/
@[simp] theorem cellsOf_put (g : Grid) (d : CellRef) (raw : String) (r : CellRange) :
    (g.put d raw).cellsOf r = g.cellsOf r := by
  have hbounds : (g.put d raw).bounds = g.bounds := by
    rw [bounds, bounds, rowCount_put]
    rfl
  rw [cellsOf, cellsOf, clip, clip, hbounds]

/-- A new row is one row more. -/
@[simp] theorem rowCount_addRow (g : Grid) : g.addRow.rowCount = g.rowCount + 1 :=
  List.length_append

/-- A new column leaves the number of rows as it is. -/
@[simp] theorem rowCount_addColumn (g : Grid) : g.addColumn.rowCount = g.rowCount :=
  List.length_map _

/-- A blank row changes no text. -/
theorem getD_text?_addRow (g : Grid) (c : CellRef) :
    (g.addRow.text? c).getD "" = (g.text? c).getD "" := by
  simp only [text?, addRow, Option.bind_eq_bind, List.getElem?_append]
  by_cases hrow : c.row < g.rows.length
  · rw [if_pos hrow]
  · rw [if_neg hrow, List.getElem?_eq_none (Nat.le_of_not_lt hrow)]
    -- Below the old rows there was nothing, and now there is nothing or an empty text.
    by_cases hlast : c.row - g.rows.length = 0
    · by_cases hcol : c.col < g.colCount <;> simp [hlast, hcol]
    · rw [List.getElem?_eq_none (by simp; omega)]

/-- A blank column changes no text. -/
theorem getD_text?_addColumn (g : Grid) (c : CellRef) :
    (g.addColumn.text? c).getD "" = (g.text? c).getD "" := by
  simp only [text?, addColumn, Option.bind_eq_bind, List.getElem?_map]
  cases g.rows[c.row]? with
  | none => rfl
  | some row =>
      simp only [Option.map_some, Option.bind_some, List.getElem?_append]
      by_cases hcol : c.col < row.length
      · rw [if_pos hcol]
      · rw [if_neg hcol, List.getElem?_eq_none (Nat.le_of_not_lt hcol)]
        by_cases hlast : c.col - row.length = 0
        · simp [hlast]
        · rw [List.getElem?_eq_none (by simp; omega)]

/-- The last row is removed if there is another one. -/
theorem removeRow?_cases (g : Grid) :
    (g.rowCount = 1 ∧ g.removeRow? = none) ∨
      (1 < g.rowCount ∧ ∃ smaller, g.removeRow? = some smaller ∧ smaller.rows = g.rows.dropLast ∧
        smaller.colCount = g.colCount) := by
  have hpos := g.rowCount_pos
  rw [removeRow?]
  split
  · next hmany => exact Or.inr ⟨hmany, _, rfl, rfl, rfl⟩
  · next hone => exact Or.inl ⟨by omega, rfl⟩

/-- The last column is removed if there is another one. -/
theorem removeColumn?_cases (g : Grid) :
    (g.colCount = 1 ∧ g.removeColumn? = none) ∨
      (1 < g.colCount ∧ ∃ smaller, g.removeColumn? = some smaller ∧
        smaller.rows = g.rows.map List.dropLast ∧ smaller.colCount = g.colCount - 1) := by
  have hpos := g.colCount_pos
  rw [removeColumn?]
  split
  · next hmany => exact Or.inr ⟨hmany, _, rfl, rfl, rfl⟩
  · next hone => exact Or.inl ⟨by omega, rfl⟩

/-- Without the last row, its texts are gone. -/
theorem text?_of_rows_dropLast {g smaller : Grid} (hrows : smaller.rows = g.rows.dropLast)
    (c : CellRef) : smaller.text? c = if c.row + 1 < g.rowCount then g.text? c else none := by
  simp only [text?, hrows, Option.bind_eq_bind, List.getElem?_dropLast]
  have hbelow : c.row < g.rows.length - 1 ↔ c.row + 1 < g.rowCount := by
    show c.row < g.rowCount - 1 ↔ c.row + 1 < g.rowCount
    omega
  simp only [hbelow]
  split <;> rfl

/-- Without the last column, its texts are gone. -/
theorem text?_of_rows_map_dropLast {g smaller : Grid}
    (hrows : smaller.rows = g.rows.map List.dropLast) (c : CellRef) :
    smaller.text? c = if c.col + 1 < g.colCount then g.text? c else none := by
  simp only [text?, hrows, Option.bind_eq_bind, List.getElem?_map]
  cases hget : g.rows[c.row]? with
  | none => simp
  | some row =>
      have hwidth : row.length = g.colCount := g.length_of_mem row (List.mem_of_getElem? hget)
      have hbelow : c.col < row.length - 1 ↔ c.col + 1 < g.colCount := by omega
      simp only [Option.map_some, Option.bind_some, List.getElem?_dropLast, hbelow]

end Grid

/-! ## The cells of a clipped range -/

namespace Grid

/-- A range whose first cell lies outside the grid has nothing in it. -/
theorem clip_of_not_contains {g : Grid} {r : CellRange} (h : ¬ g.contains r.first) :
    g.clip r = none := by
  rw [contains_iff] at h
  have hrows := g.rowCount_pos
  have hcols := g.colCount_pos
  rw [clip, CellRange.intersect, dif_neg]
  simp only [bounds, CellRange.spanning]
  omega

/-- A range whose first cell lies in the grid keeps that cell, and loses the rows and columns beyond
the last ones of the grid. -/
theorem clip_of_contains {g : Grid} {r : CellRange} (h : g.contains r.first) :
    ∃ clipped, g.clip r = some clipped ∧ clipped.first = r.first ∧
      clipped.rowCount = min r.rowCount (g.rowCount - r.first.row) ∧
      clipped.colCount = min r.colCount (g.colCount - r.first.col) := by
  obtain ⟨hrow, hcol⟩ := contains_iff.mp h
  have hrow' := r.row_le
  have hcol' := r.col_le
  rw [clip, CellRange.intersect, dif_pos (by simp only [bounds, CellRange.spanning]; omega)]
  refine ⟨_, rfl, ?_, ?_, ?_⟩
  · simp [bounds, CellRange.spanning]
  · simp only [bounds, CellRange.spanning, CellRange.rowCount]
    omega
  · simp only [bounds, CellRange.spanning, CellRange.colCount]
    omega

/-- The cells of a range in a grid, row by row: as many rows and columns as the grid has from the
first cell of the range on. -/
theorem cellsOf_eq (g : Grid) (r : CellRange) :
    g.cellsOf r = (List.range' r.first.row (min r.rowCount (g.rowCount - r.first.row))).flatMap
      fun row => (List.range' r.first.col (min r.colCount (g.colCount - r.first.col))).map
        fun col => ⟨row, col⟩ := by
  by_cases h : g.contains r.first
  · obtain ⟨clipped, hclip, hfirst, hrows, hcols⟩ := clip_of_contains h
    rw [cellsOf, hclip]
    show clipped.cells = _
    rw [CellRange.cells, hfirst, hrows, hcols]
  · rw [cellsOf, clip_of_not_contains h]
    rw [contains_iff] at h
    -- The range begins below the last row or to the right of the last column.
    rcases Nat.lt_or_ge r.first.row g.rowCount with hlt | hge
    · have hright : g.colCount - r.first.col = 0 := by omega
      simp [hright]
    · have hbelow : g.rowCount - r.first.row = 0 := by omega
      simp [hbelow]

/-- The range of all cells of a grid holds the cells that the grid contains. -/
theorem mem_bounds {g : Grid} {c : CellRef} : c ∈ g.bounds ↔ g.contains c := by
  have hrows := g.rowCount_pos
  have hcols := g.colCount_pos
  rw [contains_iff, CellRange.mem_iff]
  simp only [bounds, CellRange.spanning]
  omega

/-- What a grid has of a range is what the range shares with the range of all its cells. -/
theorem cellsOf_eq_cellsOf? (g : Grid) (r : CellRange) :
    g.cellsOf r = CellRange.cellsOf? (g.clip r) := by
  rw [cellsOf]
  cases g.clip r <;> rfl

/-- The cells of a range in a grid are the cells of the range that the grid contains, in the same
order. -/
theorem cellsOf_eq_filter (g : Grid) (r : CellRange) :
    g.cellsOf r = r.cells.filter g.contains := by
  rw [cellsOf_eq_cellsOf?, clip, CellRange.cells_intersect]
  exact List.filter_congr fun c _ => by rw [Bool.eq_iff_iff, decide_eq_true_eq, mem_bounds]

/-- The cells of a range in a grid are those in a larger grid that lie in the smaller one. -/
theorem cellsOf_filter {g g' : Grid} (h : ∀ c, g.contains c → g'.contains c) (r : CellRange) :
    g.cellsOf r = (g'.cellsOf r).filter g.contains := by
  rw [cellsOf_eq_filter, cellsOf_eq_filter, List.filter_filter]
  refine List.filter_congr fun c _ => ?_
  cases hc : g.contains c with
  | false => simp
  | true => simp [h c hc]

/-- A range whose first cell lies outside the grid has no cell in it. -/
theorem cellsOf_eq_nil {g : Grid} {r : CellRange} (h : ¬ g.contains r.first) :
    g.cellsOf r = [] := by
  rw [cellsOf, clip_of_not_contains h]

/-- A range whose first cell lies in the grid begins with it. -/
theorem cellsOf_eq_cons {g : Grid} {r : CellRange} (h : g.contains r.first) :
    ∃ rest, g.cellsOf r = r.first :: rest := by
  obtain ⟨clipped, hclip, hsame, -, -⟩ := clip_of_contains h
  rw [cellsOf, hclip, ← hsame]
  -- A range has at least one row and one column.
  show ∃ rest, clipped.cells = clipped.first :: rest
  rw [CellRange.cells, CellRange.rowCount, CellRange.colCount, List.range'_succ, List.range'_succ]
  exact ⟨_, rfl⟩

/-! ## Ranges as sets of cells -/

/-- Ranges are sets of cells, listed row by row. Two ranges share the cells of either one that lie
in the other, in their order: no range at all if there is no such cell, and otherwise one with its
corners the right way round. So it does not matter which range comes first, a range shares itself
with itself, and of three ranges any two may be taken first. A grid keeps of a range the cells that
it contains, in their order, and no range at all if it contains none of them. -/
theorem ranges_are_cell_sets :
    (∀ a : CellRange, a.cells.Pairwise CellRef.Before ∧ ∀ c, c ∈ a.cells ↔ c ∈ a) ∧
    (∀ a b : CellRange, (a.intersect b = none ↔ ∀ c ∈ a.cells, c ∉ b) ∧
      ∀ shared, a.intersect b = some shared →
        shared.cells = a.cells.filter (· ∈ b) ∧
          shared.first.row ≤ shared.last.row ∧ shared.first.col ≤ shared.last.col) ∧
    (∀ a b : CellRange, a.intersect b = b.intersect a) ∧
    (∀ a : CellRange, a.intersect a = some a) ∧
    (∀ a b d : CellRange,
      (a.intersect b).bind (·.intersect d) = (b.intersect d).bind (a.intersect ·)) ∧
    ∀ (g : Grid) (a : CellRange), (g.clip a = none ↔ ∀ c ∈ a.cells, ¬ g.contains c) ∧
      ∀ clipped, g.clip a = some clipped → clipped.cells = a.cells.filter g.contains := by
  refine ⟨fun a => ⟨a.pairwise_cells, fun c => CellRange.mem_cells⟩, ?_, CellRange.intersect_comm,
    CellRange.intersect_self, CellRange.intersect_assoc, ?_⟩
  · intro a b
    -- Both parts are read off one list: the cells of the first range that lie in the second.
    have hcells := CellRange.cells_intersect a b
    constructor
    · rw [← CellRange.cellsOf?_eq_nil, hcells, List.filter_eq_nil_iff]
      simp only [decide_eq_true_eq]
    · intro shared hshared
      rw [hshared] at hcells
      exact ⟨hcells, shared.row_le, shared.col_le⟩
  · intro g a
    -- Clipping is the same with the grid in place of the second range.
    have hcells := g.cellsOf_eq_filter a
    rw [cellsOf_eq_cellsOf?] at hcells
    constructor
    · rw [← CellRange.cellsOf?_eq_nil, hcells, List.filter_eq_nil_iff]
    · intro clipped hclipped
      rw [hclipped] at hcells
      exact hcells

/-- Two ranges that cross, of which the second one reaches beyond a grid of two rows; the last row
of an index is far outside. -/
theorem ranges_are_cell_sets_crossing :
    let a : CellRange := .spanning ⟨1, 0⟩ ⟨2, 3⟩
    let b : CellRange := .spanning ⟨0, 2⟩ ⟨indexLimit - 2, 2⟩
    let g := blank 2 4
    (a.intersect b = some (.spanning ⟨1, 2⟩ ⟨2, 2⟩) ∧
        (CellRange.spanning ⟨1, 2⟩ ⟨2, 2⟩).cells = a.cells.filter (· ∈ b)) ∧
      (g.clip b = some (.spanning ⟨0, 2⟩ ⟨1, 2⟩) ∧
        (CellRange.spanning ⟨0, 2⟩ ⟨1, 2⟩).cells = b.cells.filter g.contains) ∧
      g.clip (.spanning ⟨2, 0⟩ ⟨indexLimit - 2, 3⟩) = none := by
  intro a b g
  obtain ⟨-, hshared, -, -, -, hclip⟩ := ranges_are_cell_sets
  have hab : a.intersect b = some (.spanning ⟨1, 2⟩ ⟨2, 2⟩) := by decide
  have hgb : g.clip b = some (.spanning ⟨0, 2⟩ ⟨1, 2⟩) := by decide
  refine ⟨⟨hab, ((hshared a b).2 _ hab).1⟩, ⟨hgb, (hclip g b).2 _ hgb⟩, ?_⟩
  decide

end Grid
end FormulaTable
