import FormulaTable.Proofs.Grid.Shape
import FormulaTable.Table.Basic

/-!
# `FormulaTable.Proofs.Grid.BoundedMap`: a grid is a map with a size

What a grid does can be said without rows: there is a size, and a map from all places to texts that
is empty outside the size (`BoundedMap`). Writing replaces one text of the map. A row or column more
or less is another size, and texts that are outside the new size are forgotten
(`BoundedMap.resized`).

`Grid.view` is the map of a grid. `Grid.view_edit` says that an edit of the grid is the edit of its
map, with the same answer; it is put together from one lemma for each operation. `Edit.run_view`
carries this over to several edits. The ways to make a grid have maps of their own (`Origin.map`),
and `Origin.view_grid` says that they are the views. `Grid.refines_bounded_map` joins these, and
says what follows for everything that can be asked of a grid.
-/

set_option autoImplicit false

namespace FormulaTable

/-- A size of one row and one column at least, and a map from places to texts that is empty outside
the size. -/
@[ext]
structure BoundedMap where
  rowCount : Nat
  colCount : Nat
  text : CellRef → String
  rowCount_pos : 0 < rowCount
  colCount_pos : 0 < colCount
  text_outside : ∀ c, ¬ (c.row < rowCount ∧ c.col < colCount) → text c = ""

/-! ## Edits -/

/-- A change to one cell, or to the size by one row or column. -/
inductive Edit where
  | write (cell : CellRef) (raw : String)
  | addRow
  | removeRow
  | addColumn
  | removeColumn
  deriving DecidableEq, Repr

namespace Edit

variable {σ τ : Type}

/-- The state after several edits, and the answers to them; `step` carries out one. -/
def run (step : σ → Edit → σ × Answer) (s : σ) : List Edit → σ × List Answer
  | [] => (s, [])
  | edit :: rest =>
    let (s, answer) := step s edit
    let (s, answers) := run step s rest
    (s, answer :: answers)

/-- A view that follows every edit, answer included, follows several edits. -/
theorem run_view {step : σ → Edit → σ × Answer} {viewStep : τ → Edit → τ × Answer} {view : σ → τ}
    (h : ∀ s edit, viewStep (view s) edit = (view (step s edit).1, (step s edit).2)) (s : σ)
    (edits : List Edit) :
    run viewStep (view s) edits = (view (run step s edits).1, (run step s edits).2) := by
  induction edits generalizing s with
  | nil => rfl
  | cons edit rest ih =>
      have hfirst := h s edit
      simp only [run]
      rw [hfirst, ih]

end Edit

namespace BoundedMap

/-- A place lies in a bounded map when it lies in its size. -/
instance : Membership CellRef BoundedMap where
  mem m c := c.row < m.rowCount ∧ c.col < m.colCount

instance (c : CellRef) (m : BoundedMap) : Decidable (c ∈ m) :=
  inferInstanceAs (Decidable (_ ∧ _))

/-- The map with one text replaced. -/
def written (m : BoundedMap) (cell : CellRef) (raw : String) (h : cell ∈ m) : BoundedMap where
  rowCount := m.rowCount
  colCount := m.colCount
  text c := if c = cell then raw else m.text c
  rowCount_pos := m.rowCount_pos
  colCount_pos := m.colCount_pos
  text_outside := by
    intro c hc
    rw [if_neg]
    · exact m.text_outside c hc
    · rintro rfl
      exact hc h

/-- The map with another size; what lies outside it is forgotten. -/
def resized (m : BoundedMap) (rows cols : Nat) (hrows : 0 < rows) (hcols : 0 < cols) :
    BoundedMap where
  rowCount := rows
  colCount := cols
  text c := if c.row < rows ∧ c.col < cols then m.text c else ""
  rowCount_pos := hrows
  colCount_pos := hcols
  text_outside _ hc := if_neg hc

/-- Carries out an edit: a place is written if it lies in the map, and the last row or column is
removed if there is another one. -/
def edit (m : BoundedMap) : Edit → BoundedMap × Answer
  | .write cell raw =>
    if h : cell ∈ m then (m.written cell raw h, .done)
    else (m, .refused { cell, rows := m.rowCount, cols := m.colCount })
  | .addRow => (m.resized (m.rowCount + 1) m.colCount (Nat.succ_pos _) m.colCount_pos, .done)
  | .removeRow =>
    if h : 1 < m.rowCount then
      (m.resized (m.rowCount - 1) m.colCount (by omega) m.colCount_pos, .removed true)
    else (m, .removed false)
  | .addColumn => (m.resized m.rowCount (m.colCount + 1) m.rowCount_pos (Nat.succ_pos _), .done)
  | .removeColumn =>
    if h : 1 < m.colCount then
      (m.resized m.rowCount (m.colCount - 1) m.rowCount_pos (by omega), .removed true)
    else (m, .removed false)

/-- A larger size adds empty texts only, so the map from places to texts is the same. -/
theorem text_resized_of_le (m : BoundedMap) {rows cols : Nat} (hrows : m.rowCount ≤ rows)
    (hcols : m.colCount ≤ cols) (hrows' : 0 < rows) (hcols' : 0 < cols) :
    (m.resized rows cols hrows' hcols').text = m.text := by
  funext c
  show (if c.row < rows ∧ c.col < cols then m.text c else "") = m.text c
  split
  · rfl
  · next hout => exact (m.text_outside c (by omega)).symm

/-- A count that is held to one is no zero. -/
theorem max_one_pos (count : Nat) : 0 < max count 1 := by
  omega

/-- The empty map of a size, which is one row and one column at least. -/
def blank (rows cols : Nat) : BoundedMap where
  rowCount := max rows 1
  colCount := max cols 1
  text _ := ""
  rowCount_pos := max_one_pos rows
  colCount_pos := max_one_pos cols
  text_outside _ _ := rfl

/-- The map of rows of texts: as many rows as there are, and as many columns as the longest has
texts. There is none if there is no text at all. -/
def ofRows? (rows : List (List String)) : Option BoundedMap :=
  if h : ∃ row ∈ rows, row ≠ [] then
    some {
      rowCount := rows.length
      colCount := (rows.map List.length).max?.getD 0
      text c := (rows[c.row]?.bind (·[c.col]?)).getD ""
      rowCount_pos := by
        obtain ⟨row, hrow, -⟩ := h
        exact List.length_pos_of_mem hrow
      colCount_pos := by
        obtain ⟨row, hrow, hne⟩ := h
        have hlength : 0 < row.length := List.length_pos_iff.mpr hne
        have hlongest : row.length ≤ (rows.map List.length).max?.getD 0 :=
          List.le_max?_getD_of_mem (List.mem_map_of_mem hrow)
        omega
      text_outside := by
        intro c hc
        cases hget : rows[c.row]? with
        | none => rfl
        | some row =>
            obtain ⟨hrow, rfl⟩ := List.getElem?_eq_some_iff.mp hget
            have hlongest : rows[c.row].length ≤ (rows.map List.length).max?.getD 0 :=
              List.le_max?_getD_of_mem (List.mem_map_of_mem (List.getElem_mem hrow))
            rw [Option.bind_some, List.getElem?_eq_none (by omega)]
            rfl }
  else none

end BoundedMap

/-! ## The map of a grid -/

namespace Grid

/-- Carries out an edit. -/
def edit (g : Grid) : Edit → Grid × Answer
  | .write cell raw =>
    match g.set cell raw with
    | .ok written => (written, .done)
    | .error e => (g, .refused e)
  | .addRow => (g.addRow, .done)
  | .removeRow =>
    match g.removeRow? with
    | some smaller => (smaller, .removed true)
    | none => (g, .removed false)
  | .addColumn => (g.addColumn, .done)
  | .removeColumn =>
    match g.removeColumn? with
    | some smaller => (smaller, .removed true)
    | none => (g, .removed false)

/-- The size of a grid, and the texts it has as a map from all places. -/
def view (g : Grid) : BoundedMap where
  rowCount := g.rowCount
  colCount := g.colCount
  text c := (g.text? c).getD ""
  rowCount_pos := g.rowCount_pos
  colCount_pos := g.colCount_pos
  text_outside c hc := by
    rw [text?_of_not_contains (by rwa [contains_iff])]
    rfl

/-- A map views the cells that the grid contains. -/
theorem mem_view {g : Grid} {c : CellRef} : c ∈ g.view ↔ g.contains c :=
  contains_iff.symm

/-- A grid has the texts of its map in its size, and none elsewhere. -/
theorem text?_eq_view (g : Grid) (c : CellRef) :
    g.text? c = if c ∈ g.view then some (g.view.text c) else none := by
  by_cases hc : g.contains c
  · obtain ⟨raw, hraw⟩ := Option.isSome_iff_exists.mp ((g.isSome_text? c).trans hc)
    have htext : g.view.text c = raw := by
      show (g.text? c).getD "" = raw
      rw [hraw]
      rfl
    rw [if_pos (mem_view.mpr hc), hraw, htext]
  · rw [if_neg (fun hmem => hc (mem_view.mp hmem)), text?_of_not_contains hc]

/-! ### One lemma for each operation -/

/-- Writing a cell replaces its text in the map. -/
theorem view_put {g : Grid} {cell : CellRef} (h : g.contains cell) (raw : String) :
    (g.put cell raw).view = g.view.written cell raw (mem_view.mpr h) := by
  refine BoundedMap.ext (g.rowCount_put cell raw) rfl ?_
  funext c
  show ((g.put cell raw).text? c).getD "" = if c = cell then raw else (g.text? c).getD ""
  rw [text?_put h]
  split <;> rfl

/-- A blank row makes the size larger. -/
theorem view_addRow (g : Grid) :
    g.addRow.view = g.view.resized (g.rowCount + 1) g.colCount (Nat.succ_pos _) g.colCount_pos := by
  refine BoundedMap.ext g.rowCount_addRow rfl ?_
  refine .trans ?_ (g.view.text_resized_of_le (Nat.le_succ g.rowCount) (Nat.le_refl g.colCount)
    _ _).symm
  funext c
  exact g.getD_text?_addRow c

/-- A blank column makes the size larger. -/
theorem view_addColumn (g : Grid) :
    g.addColumn.view
      = g.view.resized g.rowCount (g.colCount + 1) g.rowCount_pos (Nat.succ_pos _) := by
  refine BoundedMap.ext g.rowCount_addColumn rfl ?_
  refine .trans ?_ (g.view.text_resized_of_le (Nat.le_refl g.rowCount) (Nat.le_succ g.colCount)
    _ _).symm
  funext c
  exact g.getD_text?_addColumn c

/-- Without the last row, the size is smaller and what was in the row is forgotten. -/
theorem view_of_rows_dropLast {g smaller : Grid} (hmany : 1 < g.rowCount)
    (hrows : smaller.rows = g.rows.dropLast) (hcols : smaller.colCount = g.colCount) :
    smaller.view = g.view.resized (g.rowCount - 1) g.colCount (by omega) g.colCount_pos := by
  have hcount : smaller.rowCount = g.rowCount - 1 := by
    rw [rowCount, hrows, List.length_dropLast]
    rfl
  refine BoundedMap.ext hcount hcols ?_
  funext c
  show (smaller.text? c).getD "" = if c.row < g.rowCount - 1 ∧ c.col < g.colCount then
    (g.text? c).getD "" else ""
  rw [text?_of_rows_dropLast hrows]
  by_cases hrow : c.row + 1 < g.rowCount
  · rw [if_pos hrow]
    split
    · rfl
    · next hout =>
        -- The row is still there, so the cell was to the right of the grid before.
        exact g.view.text_outside c fun hin => hout ⟨by omega, hin.2⟩
  · rw [if_neg hrow, if_neg (by omega)]
    rfl

/-- Without the last column, the size is smaller and what was in the column is forgotten. -/
theorem view_of_rows_map_dropLast {g smaller : Grid} (hmany : 1 < g.colCount)
    (hrows : smaller.rows = g.rows.map List.dropLast) (hcols : smaller.colCount = g.colCount - 1) :
    smaller.view = g.view.resized g.rowCount (g.colCount - 1) g.rowCount_pos (by omega) := by
  have hcount : smaller.rowCount = g.rowCount := by
    rw [rowCount, hrows, List.length_map]
    rfl
  refine BoundedMap.ext hcount hcols ?_
  funext c
  show (smaller.text? c).getD "" = if c.row < g.rowCount ∧ c.col < g.colCount - 1 then
    (g.text? c).getD "" else ""
  rw [text?_of_rows_map_dropLast hrows]
  by_cases hcol : c.col + 1 < g.colCount
  · rw [if_pos hcol]
    split
    · rfl
    · next hout =>
        -- The column is still there, so the cell was below the grid before.
        exact g.view.text_outside c fun hin => hout ⟨hin.1, by omega⟩
  · rw [if_neg hcol, if_neg (by omega)]
    rfl

/-- An edit of a grid is the edit of its map, with the same answer. -/
theorem view_edit (g : Grid) (edit : Edit) :
    g.view.edit edit = ((g.edit edit).1.view, (g.edit edit).2) := by
  cases edit with
  | write cell raw =>
      by_cases h : g.contains cell
      · simp only [BoundedMap.edit, Grid.edit, set, if_pos h, dif_pos (mem_view.mpr h), view_put h]
      · simp only [BoundedMap.edit, Grid.edit, set, if_neg h,
          dif_neg (fun hmem => h (mem_view.mp hmem))]
        rfl
  | addRow =>
      show (g.view.resized (g.rowCount + 1) g.colCount _ _, Answer.done) = (g.addRow.view, .done)
      rw [view_addRow]
  | addColumn =>
      show (g.view.resized g.rowCount (g.colCount + 1) _ _, Answer.done) = (g.addColumn.view, .done)
      rw [view_addColumn]
  | removeRow =>
      -- The map and the grid both keep their only row.
      rcases g.removeRow?_cases with ⟨hone, hnone⟩ | ⟨hmany, smaller, hsome, hrows, hcols⟩
      · have hsingle : ¬ 1 < g.view.rowCount := Nat.not_lt.mpr (Nat.le_of_eq hone)
        simp only [BoundedMap.edit, Grid.edit, hnone, dif_neg hsingle]
      · have hmany' : 1 < g.view.rowCount := hmany
        simp only [BoundedMap.edit, Grid.edit, hsome, dif_pos hmany',
          view_of_rows_dropLast hmany hrows hcols]
        rfl
  | removeColumn =>
      rcases g.removeColumn?_cases with ⟨hone, hnone⟩ | ⟨hmany, smaller, hsome, hrows, hcols⟩
      · have hsingle : ¬ 1 < g.view.colCount := Nat.not_lt.mpr (Nat.le_of_eq hone)
        simp only [BoundedMap.edit, Grid.edit, hnone, dif_neg hsingle]
      · have hmany' : 1 < g.view.colCount := hmany
        simp only [BoundedMap.edit, Grid.edit, hsome, dif_pos hmany',
          view_of_rows_map_dropLast hmany hrows hcols]
        rfl

end Grid

/-! ## Grids to begin with -/

/-- A way to make a grid. -/
inductive Origin where
  | ofConfig (config : GridConfig)
  | blank (rows cols : Nat)
  | ofRows (rows : List (List String))
  | ofBlob (config : GridConfig) (blob : String)
  deriving DecidableEq, Repr

namespace Origin

/-- The grid that is made. -/
def grid : Origin → Grid
  | .ofConfig config => .ofConfig config
  | .blank rows cols => .blank rows cols
  | .ofRows rows => .ofRows rows
  | .ofBlob config blob => .ofBlob config blob

/-- The map that is made. Rows without any text give one empty text, and a blob without any, or none
at all, the empty map of the configured size. -/
def map : Origin → BoundedMap
  | .ofConfig config => .blank config.defaultRows config.defaultCols
  | .blank rows cols => .blank rows cols
  | .ofRows rows => (BoundedMap.ofRows? rows).getD (.blank 1 1)
  | .ofBlob config blob =>
    ((rowsOfBlob? blob).bind BoundedMap.ofRows?).getD (.blank config.defaultRows config.defaultCols)

end Origin

namespace Grid

/-- The view of a blank grid is a blank map. -/
theorem view_blank (rows cols : Nat) : (blank rows cols).view = .blank rows cols := by
  have hcount : (blank rows cols).rowCount = max rows 1 := List.length_replicate
  refine BoundedMap.ext hcount rfl ?_
  funext c
  show ((List.replicate (max rows 1) (List.replicate (max cols 1) ""))[c.row]?.bind
    (·[c.col]?)).getD ""
    = ""
  rw [List.getElem?_replicate]
  split
  · rw [Option.bind_some, List.getElem?_replicate]
    split <;> rfl
  · rfl

/-- The length of the longest row. -/
theorem widest_eq_max? (rows : List (List String)) :
    widest rows = (rows.map List.length).max?.getD 0 := by
  induction rows with
  | nil => rfl
  | cons row rows ih =>
      show max row.length (widest rows) = _
      rw [ih, List.map_cons, List.max?_cons]
      cases (rows.map List.length).max? with
      | none => exact Nat.max_zero row.length
      | some longest => rfl

/-- There is a text in rows if the longest of them is not empty. -/
theorem widest_pos_iff {rows : List (List String)} : 0 < widest rows ↔ ∃ row ∈ rows, row ≠ [] := by
  induction rows with
  | nil => simp [widest]
  | cons row rows ih =>
      have hmax : 0 < widest (row :: rows) ↔ 0 < row.length ∨ 0 < widest rows := by
        show 0 < max row.length (widest rows) ↔ 0 < row.length ∨ 0 < widest rows
        omega
      rw [hmax, ih, List.length_pos_iff]
      simp only [List.mem_cons, exists_eq_or_imp]

/-- What a short row is padded with is empty, and so is what lies beyond. -/
theorem getD_getElem?_padRow (width : Nat) (row : List String) (col : Nat) :
    ((padRow width row)[col]?).getD "" = (row[col]?).getD "" := by
  rw [padRow, List.getElem?_append]
  split
  · rfl
  · next hout =>
      rw [List.getElem?_replicate, List.getElem?_eq_none (Nat.le_of_not_lt hout)]
      split <;> rfl

/-- Rows make a grid exactly if they make a map, and the map is the view of the grid. -/
theorem view_ofRows? (rows : List (List String)) :
    (ofRows? rows).map view = BoundedMap.ofRows? rows := by
  by_cases h : ∃ row ∈ rows, row ≠ []
  · rw [ofRows?, dif_pos (widest_pos_iff.mpr h), BoundedMap.ofRows?, dif_pos h]
    refine congrArg some (BoundedMap.ext (List.length_map _) (widest_eq_max? rows) ?_)
    funext c
    show ((rows.map (padRow (widest rows)))[c.row]?.bind (·[c.col]?)).getD ""
      = (rows[c.row]?.bind (·[c.col]?)).getD ""
    rw [List.getElem?_map]
    cases rows[c.row]? with
    | none => rfl
    | some row => exact getD_getElem?_padRow (widest rows) row c.col
  · rw [ofRows?, dif_neg (fun hpos => h (widest_pos_iff.mp hpos)), BoundedMap.ofRows?, dif_neg h]
    rfl

end Grid

/-- However a grid is made, its map is made the same way. -/
theorem Origin.view_grid (origin : Origin) : origin.grid.view = origin.map := by
  cases origin with
  | ofConfig config => exact Grid.view_blank config.defaultRows config.defaultCols
  | blank rows cols => exact Grid.view_blank rows cols
  | ofRows rows =>
      show ((Grid.ofRows? rows).getD (.blank 1 1)).view
        = (BoundedMap.ofRows? rows).getD (.blank 1 1)
      rw [← Grid.view_ofRows?, ← Grid.view_blank, Option.getD_map]
  | ofBlob config blob =>
      -- A blob that cannot be read and rows that are all empty fall back to the same blank grid on
      -- both sides.
      have hrows : ((rowsOfBlob? blob).bind Grid.ofRows?).map Grid.view
          = (rowsOfBlob? blob).bind BoundedMap.ofRows? := by
        rw [Option.map_bind]
        exact congrArg _ (funext Grid.view_ofRows?)
      show (((rowsOfBlob? blob).bind Grid.ofRows?).getD (.ofConfig config)).view
        = ((rowsOfBlob? blob).bind BoundedMap.ofRows?).getD
            (.blank config.defaultRows config.defaultCols)
      rw [← hrows, ← Grid.view_blank, Option.getD_map]
      rfl

/-! ## The refinement -/

namespace BoundedMap

/-- The last row is removed if there is another one. -/
theorem edit_removeRow (m : BoundedMap) :
    (m.edit .removeRow).2 = .removed (decide (1 < m.rowCount)) := by
  rw [edit]
  split
  · next h => rw [decide_eq_true h]
  · next h => rw [decide_eq_false h]

/-- The last column is removed if there is another one. -/
theorem edit_removeColumn (m : BoundedMap) :
    (m.edit .removeColumn).2 = .removed (decide (1 < m.colCount)) := by
  rw [edit]
  split
  · next h => rw [decide_eq_true h]
  · next h => rw [decide_eq_false h]

/-- When the last row has been removed and a row is added, it is blank. -/
theorem run_removeRow_addRow {m : BoundedMap} (h : 1 < m.rowCount) (c : CellRef) :
    (c ∈ (Edit.run edit m [.removeRow, .addRow]).1 ↔ c ∈ m) ∧
      (c ∈ m → (Edit.run edit m [.removeRow, .addRow]).1.text c
        = if c.row + 1 = m.rowCount then "" else m.text c) := by
  have hsize : m.rowCount - 1 + 1 = m.rowCount := by omega
  simp only [Edit.run, edit, dif_pos h]
  constructor
  · show (c.row < m.rowCount - 1 + 1 ∧ c.col < m.colCount) ↔ c.row < m.rowCount ∧ c.col < m.colCount
    rw [hsize]
  · rintro ⟨hrow, hcol⟩
    -- The smaller map is what counts: the larger one adds empty texts only.
    rw [text_resized_of_le _ (Nat.le_succ _) (Nat.le_refl _)]
    show (if c.row < m.rowCount - 1 ∧ c.col < m.colCount then m.text c else "") = _
    by_cases hlast : c.row + 1 = m.rowCount
    · rw [if_neg (by omega), if_pos hlast]
    · rw [if_pos (by omega), if_neg hlast]

/-- When the last column has been removed and a column is added, it is blank. -/
theorem run_removeColumn_addColumn {m : BoundedMap} (h : 1 < m.colCount) (c : CellRef) :
    (c ∈ (Edit.run edit m [.removeColumn, .addColumn]).1 ↔ c ∈ m) ∧
      (c ∈ m → (Edit.run edit m [.removeColumn, .addColumn]).1.text c
        = if c.col + 1 = m.colCount then "" else m.text c) := by
  have hsize : m.colCount - 1 + 1 = m.colCount := by omega
  simp only [Edit.run, edit, dif_pos h]
  constructor
  · show (c.row < m.rowCount ∧ c.col < m.colCount - 1 + 1) ↔ c.row < m.rowCount ∧ c.col < m.colCount
    rw [hsize]
  · rintro ⟨hrow, hcol⟩
    rw [text_resized_of_le _ (Nat.le_refl _) (Nat.le_succ _)]
    show (if c.row < m.rowCount ∧ c.col < m.colCount - 1 then m.text c else "") = _
    by_cases hlast : c.col + 1 = m.colCount
    · rw [if_neg (by omega), if_pos hlast]
    · rw [if_pos (by omega), if_neg hlast]

end BoundedMap

namespace Grid

/-- What can be asked of a grid is answered from a map: the rows are as many as the map has, equally
wide, and with the texts of the map in them. To be contained, to have a text and to be written is
all the same as to lie in the map, and the coordinates are the places of the map, row by row. -/
structure Represents (g : Grid) (m : BoundedMap) : Prop where
  rowCount_eq : g.rowCount = m.rowCount
  colCount_eq : g.colCount = m.colCount
  length_eq : ∀ row ∈ g.rows, row.length = m.colCount
  text?_eq : ∀ c, g.text? c = if c ∈ m then some (m.text c) else none
  contains_iff : ∀ c, g.contains c ↔ c ∈ m
  isSome_text?_iff : ∀ c, (g.text? c).isSome ↔ c ∈ m
  set_iff : ∀ c raw, (∃ written, g.set c raw = .ok written) ↔ c ∈ m
  mem_coordinates_iff : ∀ c, c ∈ g.coordinates ↔ c ∈ m
  pairwise_coordinates : g.coordinates.Pairwise CellRef.Before

/-- Exactly the cells that a grid contains are written. -/
theorem exists_set_iff {g : Grid} {c : CellRef} {raw : String} :
    (∃ written, g.set c raw = .ok written) ↔ g.contains c := by
  rw [set]
  split
  · next h => simp [h]
  · next h => simp [h]

/-- A grid represents its view. -/
theorem represents_view (g : Grid) : g.Represents g.view where
  rowCount_eq := rfl
  colCount_eq := rfl
  length_eq := g.length_of_mem
  text?_eq := g.text?_eq_view
  contains_iff _ := mem_view.symm
  isSome_text?_iff c := by rw [isSome_text?, mem_view]
  set_iff _ _ := exists_set_iff.trans mem_view.symm
  mem_coordinates_iff _ := mem_coordinates.trans mem_view.symm
  pairwise_coordinates := g.pairwise_coordinates

/-- After several edits a grid has the map after these edits, and the answers are the same. -/
theorem view_run {g : Grid} {m : BoundedMap} (h : g.view = m) (edits : List Edit) :
    (Edit.run edit g edits).1.view = (Edit.run BoundedMap.edit m edits).1 ∧
      (Edit.run edit g edits).2 = (Edit.run BoundedMap.edit m edits).2 := by
  rw [← h, Edit.run_view view_edit]
  exact ⟨rfl, rfl⟩

/-- An edit that is not carried out leaves the grid as it was. -/
theorem edit_eq_self {g : Grid} {next : Edit}
    (h : (∃ e, (g.edit next).2 = .refused e) ∨ (g.edit next).2 = .removed false) :
    (g.edit next).1 = g := by
  -- A row or a column is always added; the other edits keep the grid exactly where they answer so.
  cases next with
  | write cell raw =>
      simp only [edit] at h ⊢
      split
      · next hset => simp [hset] at h
      · rfl
  | addRow => simp [edit] at h
  | addColumn => simp [edit] at h
  | removeRow =>
      simp only [edit] at h ⊢
      split
      · next hsome => simp [hsome] at h
      · rfl
  | removeColumn =>
      simp only [edit] at h ⊢
      split
      · next hsome => simp [hsome] at h
      · rfl

/-- A grid that is written changes in one cell. -/
theorem text?_of_set {g written : Grid} {c : CellRef} {raw : String} (h : g.set c raw = .ok written)
    (d : CellRef) : written.text? d = if d = c then some raw else g.text? d := by
  have hc : g.contains c := exists_set_iff.mp ⟨written, h⟩
  rw [set, if_pos hc] at h
  obtain rfl := Except.ok.inj h
  exact text?_put hc raw d

/-- A grid is a map with a size, however it was made and whatever has been done to it. It answers
every question as the map does, and every edit too. Writing succeeds in the map only, and changes
one text. The last row or column is removed if there is another one, with its texts: what is added
in its place is blank. An edit that is not carried out leaves the grid as it was. -/
theorem refines_bounded_map (origin : Origin) (edits : List Edit) :
    let g := (Edit.run edit origin.grid edits).1
    let m := (Edit.run BoundedMap.edit origin.map edits).1
    g.Represents m ∧
    (Edit.run edit origin.grid edits).2 = (Edit.run BoundedMap.edit origin.map edits).2 ∧
    (∀ c raw written, g.set c raw = .ok written →
      ∀ d, written.text? d = if d = c then some raw else g.text? d) ∧
    (∀ next, (∃ e, (g.edit next).2 = .refused e) ∨ (g.edit next).2 = .removed false →
      (g.edit next).1 = g) ∧
    ((g.edit .removeRow).2 = .removed (decide (1 < m.rowCount)) ∧
      (g.edit .removeColumn).2 = .removed (decide (1 < m.colCount))) ∧
    (1 < m.rowCount → ∀ c, (Edit.run edit g [.removeRow, .addRow]).1.text? c
      = if c ∈ m then some (if c.row + 1 = m.rowCount then "" else m.text c) else none) ∧
    (1 < m.colCount → ∀ c, (Edit.run edit g [.removeColumn, .addColumn]).1.text? c
      = if c ∈ m then some (if c.col + 1 = m.colCount then "" else m.text c) else none) := by
  intro g m
  obtain ⟨hview, hanswers⟩ : g.view = m ∧ _ := view_run origin.view_grid edits
  have hrepresents : g.Represents m := hview ▸ g.represents_view
  refine ⟨hrepresents, hanswers, fun c raw written => text?_of_set, fun next => edit_eq_self,
    ⟨?_, ?_⟩, ?_, ?_⟩
  · -- The answer of the grid is that of its map, and the map says which it is.
    rw [← m.edit_removeRow, ← hview, view_edit]
  · rw [← m.edit_removeColumn, ← hview, view_edit]
  · intro hmany c
    obtain ⟨hmem, htext⟩ := BoundedMap.run_removeRow_addRow hmany c
    rw [text?_eq_view, (view_run hview [.removeRow, .addRow]).1]
    simp only [hmem]
    split
    · next hc => rw [htext hc]
    · rfl
  · intro hmany c
    obtain ⟨hmem, htext⟩ := BoundedMap.run_removeColumn_addColumn hmany c
    rw [text?_eq_view, (view_run hview [.removeColumn, .addColumn]).1]
    simp only [hmem]
    split
    · next hc => rw [htext hc]
    · rfl

/-- The short row is padded, and the third column goes with what has been written to it. Afterwards
one cell is written, a cell outside is refused, and a row and a column that are added again are
blank. -/
theorem refines_bounded_map_ragged :
    let origin := Origin.ofRows [["1"], ["2", "=A1", "x"]]
    let edits := [.write ⟨0, 2⟩ "y", .removeColumn, .write ⟨0, 2⟩ "z", .addColumn]
    let g := (Edit.run edit origin.grid edits).1
    (Edit.run BoundedMap.edit origin.map edits).2
      = [.done, .removed true, .refused { cell := ⟨0, 2⟩, rows := 2, cols := 2 }, .done] ∧
    g.rows = [["1", "", ""], ["2", "=A1", ""]] ∧
    (g.set ⟨1, 2⟩ "w" = .ok (g.put ⟨1, 2⟩ "w") ∧
      (g.put ⟨1, 2⟩ "w").text? ⟨1, 1⟩ = some "=A1") ∧
    ((g.edit (.write ⟨2, 0⟩ "v")).2 = .refused { cell := ⟨2, 0⟩, rows := 2, cols := 3 } ∧
      (g.edit (.write ⟨2, 0⟩ "v")).1 = g) ∧
    (1 < g.rowCount ∧ (Edit.run edit g [.removeRow, .addRow]).1.text? ⟨1, 1⟩ = some "") ∧
    1 < g.colCount ∧ (Edit.run edit g [.removeColumn, .addColumn]).1.text? ⟨1, 1⟩ = some "=A1" := by
  intro origin edits g
  obtain ⟨hmap, hanswers, hset, hself, -, hrow, hcolumn⟩ := refines_bounded_map origin edits
  have hshown : (Edit.run edit origin.grid edits).2
      = [.done, .removed true, .refused { cell := ⟨0, 2⟩, rows := 2, cols := 2 }, .done] := by
    decide +kernel
  have hrows : g.rows = [["1", "", ""], ["2", "=A1", ""]] := by decide +kernel
  have hwritten : g.set ⟨1, 2⟩ "w" = .ok (g.put ⟨1, 2⟩ "w") := if_pos (by decide +kernel)
  have hrefused : (g.edit (.write ⟨2, 0⟩ "v")).2
      = .refused { cell := ⟨2, 0⟩, rows := 2, cols := 3 } := by
    decide +kernel
  have hmany : 1 < g.rowCount ∧ 1 < g.colCount := by decide +kernel
  refine ⟨hanswers ▸ hshown, hrows, ⟨hwritten, ?_⟩, ⟨hrefused, hself _ (Or.inl ⟨_, hrefused⟩)⟩,
    ⟨hmany.1, ?_⟩, hmany.2, ?_⟩
  · -- The rest is read off the map, which the theorem relates to the grid.
    exact (hset _ _ _ hwritten ⟨1, 1⟩).trans (by decide +kernel)
  · exact (hrow (hmap.rowCount_eq ▸ hmany.1) ⟨1, 1⟩).trans (by decide +kernel)
  · exact (hcolumn (hmap.colCount_eq ▸ hmany.2) ⟨1, 1⟩).trans (by decide +kernel)

end Grid
end FormulaTable
