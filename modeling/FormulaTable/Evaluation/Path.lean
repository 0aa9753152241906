import FormulaTable.Grid.Basic

/-!
# `FormulaTable.Evaluation.Path`: the cells being evaluated

While the value of a cell is sought, the values of other cells may be needed, and of further cells
for those. The path holds the cells that have been entered and not yet left, each once. A cell that
is needed while it is on the path depends on itself.

`Path.pending` counts the formula cells of a grid that are not on a path. Entering one of them
lowers the count, which is why evaluation ends.
-/

set_option autoImplicit false

namespace FormulaTable

/-- A set of cells, in the order in which they were entered, the last one first. -/
structure Path where
  cells : List CellRef := []
  nodup : cells.Nodup := by exact List.nodup_nil
  deriving DecidableEq

namespace Path

instance : Membership CellRef Path where
  mem path cell := cell ∈ path.cells

instance (cell : CellRef) (path : Path) : Decidable (cell ∈ path) :=
  inferInstanceAs (Decidable (cell ∈ path.cells))

/-- The path with a cell on it; nothing changes if the cell is on it already. -/
def insert (path : Path) (cell : CellRef) : Path :=
  if h : cell ∈ path then path
  else { cells := cell :: path.cells, nodup := List.nodup_cons.mpr ⟨h, path.nodup⟩ }

/-- The number of cells. -/
def size (path : Path) : Nat :=
  path.cells.length

/-- A path with a cell put on it holds that cell and the cells that were on it. -/
theorem mem_insert {path : Path} {cell other : CellRef} :
    other ∈ path.insert cell ↔ other = cell ∨ other ∈ path := by
  unfold insert
  split
  · next h => exact ⟨.inr, fun h' => h'.elim (· ▸ h) id⟩
  · exact List.mem_cons

/-- The number of formula cells that are not on the path. -/
def pending (g : Grid) (path : Path) : Nat :=
  g.coordinates.countP fun cell => g.holdsFormula cell && cell ∉ path

end Path

/-- A count falls when an element that counted no longer does and no other begins to count. -/
theorem countP_lt_of_mem {α : Type} {p q : α → Bool} {l : List α} {a : α} (ha : a ∈ l)
    (hp : p a) (hq : ¬ q a) (hle : ∀ x ∈ l, q x → p x) : l.countP q < l.countP p := by
  induction l with
  | nil => simp at ha
  | cons x rest ih =>
    have hrest := List.countP_mono_left (l := rest) fun y hy => hle y (List.mem_cons_of_mem x hy)
    rw [List.countP_cons, List.countP_cons]
    rcases List.mem_cons.mp ha with rfl | ha
    · -- The element that no longer counts heads the list.
      rw [if_pos hp, if_neg hq]
      omega
    · -- It stands further on, and the head counts at most as often as before.
      have hlt := ih ha fun y hy => hle y (List.mem_cons_of_mem x hy)
      by_cases hqx : q x
      · rw [if_pos hqx, if_pos (hle x List.mem_cons_self hqx)]
        omega
      · rw [if_neg hqx]
        omega

/-- A cell with a raw text is one of the coordinates of its grid. -/
theorem Grid.mem_coordinates_of_text? {g : Grid} {cell : CellRef} {raw : String}
    (h : g.text? cell = some raw) : cell ∈ g.coordinates := by
  simp only [Grid.text?, Option.bind_eq_bind, Option.bind_eq_some_iff] at h
  obtain ⟨row, hrow, hcol⟩ := h
  obtain ⟨hr, rfl⟩ := List.getElem?_eq_some_iff.mp hrow
  obtain ⟨hc, _⟩ := List.getElem?_eq_some_iff.mp hcol
  rw [g.length_of_mem _ (List.getElem_mem hr)] at hc
  simp only [Grid.coordinates, List.mem_flatMap, List.mem_map, List.mem_range]
  exact ⟨cell.row, hr, cell.col, hc, rfl⟩

/-- Entering a formula cell leaves fewer of them. -/
theorem Path.pending_insert_lt {g : Grid} {path : Path} {cell : CellRef}
    (hcell : cell ∉ path) (hformula : g.holdsFormula cell = true) :
    (path.insert cell).pending g < path.pending g := by
  obtain ⟨raw, hraw⟩ : ∃ raw, g.text? cell = some raw := by
    cases h : g.text? cell with
    | none => simp [Grid.holdsFormula, h] at hformula
    | some raw => exact ⟨raw, rfl⟩
  refine countP_lt_of_mem (Grid.mem_coordinates_of_text? hraw) ?_ ?_ ?_
  · simp [hformula, hcell]
  · simp [mem_insert]
  · intro x _
    simp only [mem_insert, Bool.and_eq_true, decide_eq_true_eq, not_or]
    exact fun h => ⟨h.1, h.2.2⟩

end FormulaTable
