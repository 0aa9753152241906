import FormulaTable.Proofs.Grid.Shape
import Mathlib.Data.List.Nodup

/-!
# `FormulaTable.Proofs.Grid.Offset`: the cells of a range by their offsets

Two ranges of the same size are compared by offsets: how far below and to the right of its first
cell a cell lies. A grid cuts every range off at its edges, and `Grid.cellsOf_eq_map` says which
offsets are left: `Grid.keptOffsets`, a rectangle again, of `Grid.keptRows` rows and `Grid.keptCols`
columns.

Lists of offsets go row by row, so the place of an entry tells its offset only as long as the width
is known. Of two rectangles one is the beginning of the other as a list if they are equally wide
(`rectangle_prefix_of_le`), or if they have one row (`rectangle_prefix_of_rows_le_one`). In general
it is not: the offsets in two columns and those in one column go apart at the second entry.
-/

set_option autoImplicit false

namespace FormulaTable

/-! ## Rectangles of offsets -/

/-- The offsets of the cells in a rectangle, row by row. -/
def rectangle (rows cols : Nat) : List (Nat × Nat) :=
  (List.range rows).flatMap fun i => (List.range cols).map fun j => (i, j)

/-- No offset occurs twice. -/
theorem nodup_rectangle (rows cols : Nat) : (rectangle rows cols).Nodup := by
  rw [rectangle, List.nodup_flatMap]
  constructor
  · intro i _
    exact List.nodup_range.map fun j j' h => (Prod.mk.inj h).2
  · refine List.nodup_range.imp ?_
    intro i i' hne o ho ho'
    obtain ⟨j, -, rfl⟩ := List.mem_map.mp ho
    obtain ⟨j', -, heq⟩ := List.mem_map.mp ho'
    exact hne (Prod.mk.inj heq).1.symm

/-- Counting to the smaller number is the beginning of counting to the larger. -/
theorem range_prefix_range {m n : Nat} (h : m ≤ n) : List.range m <+: List.range n := by
  obtain ⟨k, rfl⟩ := Nat.exists_eq_add_of_le h
  rw [List.range_add]
  exact List.prefix_append _ _

/-- A rectangle begins with every rectangle of the same width that is not higher. -/
theorem rectangle_prefix_of_le {rows rows' : Nat} (h : rows ≤ rows') (cols : Nat) :
    rectangle rows cols <+: rectangle rows' cols := by
  obtain ⟨rest, hrest⟩ := range_prefix_range h
  rw [rectangle, rectangle, ← hrest, List.flatMap_append]
  exact List.prefix_append _ _

/-- Of two rectangles of at most one row, one is the beginning of the other. -/
theorem rectangle_prefix_of_rows_le_one {rows rows' : Nat} (h : rows ≤ 1) (h' : rows' ≤ 1)
    (cols cols' : Nat) :
    rectangle rows cols <+: rectangle rows' cols' ∨
      rectangle rows' cols' <+: rectangle rows cols := by
  have hrow : ∀ n, rectangle 1 n = (List.range n).map fun j => (0, j) := by
    intro n
    rw [rectangle, List.range_one, List.flatMap_singleton]
  rcases Nat.le_one_iff_eq_zero_or_eq_one.mp h with rfl | rfl
  · exact Or.inl List.nil_prefix
  rcases Nat.le_one_iff_eq_zero_or_eq_one.mp h' with rfl | rfl
  · exact Or.inr List.nil_prefix
  rw [hrow, hrow]
  rcases Nat.le_total cols cols' with hle | hle
  · exact Or.inl ((range_prefix_range hle).map _)
  · exact Or.inr ((range_prefix_range hle).map _)

/-- What is read along two lists at once, one of them the beginning of the other, is the same on
both sides, and it is the shorter list. -/
theorem zip_of_isPrefix {α : Type} {xs ys : List α} (h : xs <+: ys) :
    xs.zip ys = xs.map (fun x => (x, x)) ∧ ys.zip xs = xs.map fun x => (x, x) := by
  induction xs generalizing ys with
  | nil => simp
  | cons x xs ih =>
      obtain ⟨rest, rfl⟩ := h
      obtain ⟨hleft, hright⟩ := ih (List.prefix_append xs rest)
      rw [List.cons_append, List.zip_cons_cons, List.zip_cons_cons, hleft, hright]
      exact ⟨rfl, rfl⟩

/-! ## The cells of a range -/

namespace CellRange

/-- The cell of a range at an offset. -/
def cellAt (r : CellRange) (o : Nat × Nat) : CellRef :=
  ⟨r.first.row + o.1, r.first.col + o.2⟩

/-- Different offsets lead to different cells. -/
theorem cellAt_injective (r : CellRange) : Function.Injective r.cellAt := by
  intro o o' h
  have hrow : r.first.row + o.1 = r.first.row + o'.1 := congrArg CellRef.row h
  have hcol : r.first.col + o.2 = r.first.col + o'.2 := congrArg CellRef.col h
  exact Prod.ext (by omega) (by omega)

/-- The offsets of the cells of a range, row by row. -/
def offsets (r : CellRange) : List (Nat × Nat) :=
  rectangle r.rowCount r.colCount

/-- Cells in a rectangle of rows and columns, from the first cell of a range on. -/
theorem map_cellAt_rectangle (r : CellRange) (rows cols : Nat) :
    (rectangle rows cols).map r.cellAt = (List.range' r.first.row rows).flatMap fun row =>
      (List.range' r.first.col cols).map fun col => ⟨row, col⟩ := by
  rw [rectangle, List.map_flatMap, List.range'_eq_map_range, List.range'_eq_map_range,
    List.flatMap_map]
  simp only [List.map_map]
  rfl

/-- The cells of a range are at its offsets. -/
theorem cells_eq_map (r : CellRange) : r.cells = r.offsets.map r.cellAt :=
  (r.map_cellAt_rectangle r.rowCount r.colCount).symm

end CellRange

namespace Grid

variable (g : Grid) (r : CellRange)

/-- The number of rows of a range that the grid keeps. -/
def keptRows : Nat :=
  min r.rowCount (g.rowCount - r.first.row)

/-- The number of columns of a range that the grid keeps. -/
def keptCols : Nat :=
  min r.colCount (g.colCount - r.first.col)

/-- The offsets of the cells of a range that the grid keeps, row by row. -/
def keptOffsets : List (Nat × Nat) :=
  rectangle (g.keptRows r) (g.keptCols r)

/-- The cells that the grid keeps of a range are at the offsets that it keeps. -/
theorem cellsOf_eq_map : g.cellsOf r = (g.keptOffsets r).map r.cellAt := by
  rw [cellsOf_eq, keptOffsets, CellRange.map_cellAt_rectangle]
  rfl

variable {g r}

/-- The grid keeps the offsets at which it contains the cells. -/
theorem keptOffsets_eq_filter :
    g.keptOffsets r = r.offsets.filter fun o => g.contains (r.cellAt o) := by
  -- Both sides are the offsets of the same list of cells.
  apply r.cellAt_injective.list_map
  calc (g.keptOffsets r).map r.cellAt = r.cells.filter g.contains := by
        rw [← cellsOf_eq_map, cellsOf_eq_filter]
    _ = (r.offsets.filter fun o => g.contains (r.cellAt o)).map r.cellAt := by
        rw [r.cells_eq_map, List.filter_map]
        rfl

/-- An offset is kept if it is one of the range and leads into the grid. -/
theorem mem_keptOffsets {o : Nat × Nat} :
    o ∈ g.keptOffsets r ↔ o ∈ r.offsets ∧ g.contains (r.cellAt o) := by
  rw [keptOffsets_eq_filter, List.mem_filter]

/-- Of two ranges of the same size that lose the same number of columns, the one that loses more
rows is the beginning of the other, offset by offset. The same goes for any two ranges of one row.
-/
theorem keptOffsets_prefix_or {s : CellRange} (hrows : r.rowCount = s.rowCount)
    (h : g.keptCols r = g.keptCols s ∨ r.rowCount = 1) :
    g.keptOffsets r <+: g.keptOffsets s ∨ g.keptOffsets s <+: g.keptOffsets r := by
  rcases h with hwidth | hone
  · -- Equally wide, so the lower of the two rectangles comes first.
    rw [keptOffsets, keptOffsets, hwidth]
    rcases Nat.le_total (g.keptRows r) (g.keptRows s) with hle | hle
    · exact Or.inl (rectangle_prefix_of_le hle _)
    · exact Or.inr (rectangle_prefix_of_le hle _)
  · -- At most one row is kept of either.
    have hr : g.keptRows r ≤ 1 := by
      rw [keptRows]
      omega
    have hs : g.keptRows s ≤ 1 := by
      rw [keptRows]
      omega
    exact rectangle_prefix_of_rows_le_one hr hs _ _

end Grid
end FormulaTable
