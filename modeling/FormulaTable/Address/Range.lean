import FormulaTable.Address.Cell

/-!
# `FormulaTable.Address.Range`: rectangles of cells

A range such as `A1:B10` is the rectangle between two corners. The corners may be written in any
order: `CellRange.spanning` takes the smallest rectangle that holds both.

`CellRange.cells` lists the cells row by row. A range may be far larger than any table, so
`CellRange.Walk` visits the same cells one at a time.
-/

set_option autoImplicit false

namespace FormulaTable

/-- A rectangle of cells, both corners included. -/
structure CellRange where
  /-- The top left cell. -/
  first : CellRef
  /-- The bottom right cell. -/
  last : CellRef
  row_le : first.row ≤ last.row
  col_le : first.col ≤ last.col
  deriving DecidableEq, Repr

namespace CellRange

/-- The smallest range that holds two cells. -/
def spanning (a b : CellRef) : CellRange where
  first := ⟨min a.row b.row, min a.col b.col⟩
  last := ⟨max a.row b.row, max a.col b.col⟩
  row_le := by simp only; omega
  col_le := by simp only; omega

/-- Splits a text at its first colon. -/
def splitAtColon? (text : List Char) : Option (List Char × List Char) :=
  match text.dropWhile (· != ':') with
  | [] => none
  | _ :: after => some (text.takeWhile (· != ':'), after)

/-- Reads two corners with a colon between them. -/
def ofChars? (text : List Char) : Option CellRange := do
  let (before, after) ← splitAtColon? text
  return spanning (← CellRef.ofChars? before) (← CellRef.ofChars? after)

/-- Reads a range. -/
def ofString? (text : String) : Option CellRange :=
  ofChars? text.toList

/-- Reads a range, and names the text if it is none. -/
def ofString (text : String) : Except AddressError CellRange :=
  match ofString? text with
  | some range => .ok range
  | none => .error (.notAnAddress text)

/-- The range as its two corners with a colon between them. -/
def chars (range : CellRange) : List Char :=
  range.first.chars ++ ':' :: range.last.chars

/-- The text of a range. -/
def toText (range : CellRange) : String :=
  String.ofList range.chars

/-- A cell lies in a range when its row and its column do. -/
instance : Membership CellRef CellRange where
  mem range cell :=
    (range.first.row ≤ cell.row ∧ cell.row ≤ range.last.row) ∧
      range.first.col ≤ cell.col ∧ cell.col ≤ range.last.col

instance (cell : CellRef) (range : CellRange) : Decidable (cell ∈ range) :=
  inferInstanceAs (Decidable (_ ∧ _))

/-- The rectangle two ranges share, if they share a cell. -/
def intersect (a b : CellRange) : Option CellRange :=
  let first : CellRef := ⟨max a.first.row b.first.row, max a.first.col b.first.col⟩
  let last : CellRef := ⟨min a.last.row b.last.row, min a.last.col b.last.col⟩
  if h : first.row ≤ last.row ∧ first.col ≤ last.col then
    some ⟨first, last, h.1, h.2⟩
  else none

/-- The number of rows. -/
def rowCount (range : CellRange) : Nat :=
  range.last.row - range.first.row + 1

/-- The number of columns. -/
def colCount (range : CellRange) : Nat :=
  range.last.col - range.first.col + 1

/-- The cells of a range, row by row. -/
def cells (range : CellRange) : List CellRef :=
  (List.range' range.first.row range.rowCount).flatMap fun row =>
    (List.range' range.first.col range.colCount).map fun col => ⟨row, col⟩

/-- How far a visit of the cells of a range has come: `next` is the cell to be visited. -/
structure Walk where
  range : CellRange
  /-- The cell to be visited next; below the last row when all have been. -/
  next : CellRef

/-- A visit that has not begun. -/
def walk (range : CellRange) : Walk :=
  { range, next := range.first }

namespace Walk

/-- Visits one cell, going along the row and then to the start of the next one. -/
def step? (w : Walk) : Option (CellRef × Walk) :=
  if w.range.last.row < w.next.row then none
  else
    let following : CellRef :=
      if w.range.last.col < w.next.col + 1 then ⟨w.next.row + 1, w.range.first.col⟩
      else ⟨w.next.row, w.next.col + 1⟩
    some (w.next, { w with next := following })

/-- The first `count` cells still to be visited. -/
def take (w : Walk) : Nat → List CellRef
  | 0 => []
  | count + 1 =>
    match w.step? with
    | none => []
    | some (cell, w) => cell :: w.take count

end Walk
end CellRange
end FormulaTable
