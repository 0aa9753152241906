import FormulaTable.Proofs.Address.Cell
import Mathlib.Data.List.Sort

/-!
# `FormulaTable.Proofs.Address.Intersection`: ranges as sets of cells

The cells of a range are its members in the order of `CellRef.Before`, row by row. There is only one
list of these members in this order, so two lists of cells are compared by what is in them
(`CellRange.cells_eq_of_pairwise`), and two ranges too (`CellRange.eq_of_mem_iff`).

What two ranges share is seen the same way. `CellRange.mem_intersect` says which cells that are,
with no cell at all for a range that is missing, and every law of `CellRange.intersect` is a law of
"and".
-/

set_option autoImplicit false

namespace FormulaTable

namespace CellRef

instance : Std.Irrefl Before where
  irrefl := by
    rintro c (h | ⟨-, h⟩)
    · exact Nat.lt_irrefl _ h
    · exact Nat.lt_irrefl _ h

instance : Std.Asymm Before where
  asymm := by
    intro c d h h'
    simp only [Before] at h h'
    omega

end CellRef

namespace CellRange

variable {r s a b d : CellRange} {c : CellRef}

/-- A cell is in a range if it lies between the corners, in its row and in its column. -/
theorem mem_iff : c ∈ r ↔ (r.first.row ≤ c.row ∧ c.row ≤ r.last.row) ∧
    r.first.col ≤ c.col ∧ c.col ≤ r.last.col :=
  Iff.rfl

/-- The first corner is in the range. -/
theorem first_mem (r : CellRange) : r.first ∈ r :=
  ⟨⟨Nat.le_refl _, r.row_le⟩, Nat.le_refl _, r.col_le⟩

/-- The last corner is in the range. -/
theorem last_mem (r : CellRange) : r.last ∈ r :=
  ⟨⟨r.row_le, Nat.le_refl _⟩, r.col_le, Nat.le_refl _⟩

/-- The cells of a range are listed row by row, none of them twice. -/
theorem pairwise_cells (r : CellRange) : r.cells.Pairwise CellRef.Before :=
  CellRef.pairwise_before List.pairwise_lt_range' List.pairwise_lt_range'

/-- The members of a range, row by row, are its cells. -/
theorem cells_eq_of_pairwise {cells : List CellRef} (hsorted : cells.Pairwise CellRef.Before)
    (hmem : ∀ c, c ∈ cells ↔ c ∈ r) : r.cells = cells :=
  r.pairwise_cells.eq_of_mem_iff hsorted fun c => mem_cells.trans (hmem c).symm

/-- The members of a range determine it, since its corners are among them. -/
theorem eq_of_mem_iff (h : ∀ c, c ∈ r ↔ c ∈ s) : r = s := by
  have hfirst := (h r.first).mp r.first_mem
  have hlast := (h r.last).mp r.last_mem
  have hfirst' := (h s.first).mpr s.first_mem
  have hlast' := (h s.last).mpr s.last_mem
  rw [mem_iff] at hfirst hlast hfirst' hlast'
  obtain ⟨⟨top, left⟩, ⟨bottom, right⟩, _, _⟩ := r
  obtain ⟨⟨top', left'⟩, ⟨bottom', right'⟩, _, _⟩ := s
  simp only at hfirst hlast hfirst' hlast'
  obtain ⟨rfl, rfl, rfl, rfl⟩ : top = top' ∧ left = left' ∧ bottom = bottom' ∧ right = right' := by
    omega
  rfl

/-! ## Ranges that may be missing -/

/-- The cells of a range that may be missing; without a range there are none. -/
def cellsOf? (range : Option CellRange) : List CellRef :=
  range.elim [] cells

/-- Only a range that is missing has no cells. -/
theorem cellsOf?_eq_nil {range : Option CellRange} : cellsOf? range = [] ↔ range = none := by
  cases range with
  | none => exact ⟨fun _ => rfl, fun _ => rfl⟩
  | some r =>
    refine ⟨fun h => ?_, fun h => by cases h⟩
    have hmem := mem_cells.mpr r.first_mem
    rw [show r.cells = [] from h] at hmem
    cases hmem

/-- The cells come row by row, whether there is a range or not. -/
theorem pairwise_cellsOf? (range : Option CellRange) :
    (cellsOf? range).Pairwise CellRef.Before := by
  cases range with
  | none => exact List.Pairwise.nil
  | some r => exact r.pairwise_cells

/-- The members of a range that may be missing determine it too. -/
theorem eq_of_mem_cellsOf? {range range' : Option CellRange}
    (h : ∀ c, c ∈ cellsOf? range ↔ c ∈ cellsOf? range') : range = range' := by
  have hcells := (pairwise_cellsOf? range).eq_of_mem_iff (pairwise_cellsOf? range') h
  cases range with
  | none => exact (cellsOf?_eq_nil.mp hcells.symm).symm
  | some r =>
      cases range' with
      | none => exact cellsOf?_eq_nil.mp hcells
      | some s => exact congrArg some (eq_of_mem_iff fun c => by
          rw [← mem_cells, ← mem_cells]
          exact h c)

/-! ## What two ranges share -/

/-- Two ranges share the cells that lie in both. -/
theorem mem_intersect : c ∈ cellsOf? (a.intersect b) ↔ c ∈ a ∧ c ∈ b := by
  rw [intersect]
  split
  · simp only [cellsOf?, Option.elim_some, mem_cells, mem_iff]
    omega
  · next hnone =>
      -- A cell in both would lie between the corners, and then these would not be the wrong way
      -- round.
      simp only [cellsOf?, Option.elim_none, List.not_mem_nil, false_iff, mem_iff] at hnone ⊢
      omega

/-- The cells that two ranges share are those of the one that lie in the other, in the same
order. -/
theorem cells_intersect (a b : CellRange) : cellsOf? (a.intersect b) = a.cells.filter (· ∈ b) := by
  refine (pairwise_cellsOf? _).eq_of_mem_iff (a.pairwise_cells.filter _) fun c => ?_
  rw [mem_intersect, List.mem_filter, mem_cells, decide_eq_true_eq]

/-- Which of two ranges comes first makes no difference to what they share. -/
theorem intersect_comm (a b : CellRange) : a.intersect b = b.intersect a :=
  eq_of_mem_cellsOf? fun c => by rw [mem_intersect, mem_intersect, and_comm]

/-- A range shares all of itself with itself. -/
theorem intersect_self (a : CellRange) : a.intersect a = some a :=
  eq_of_mem_cellsOf? fun c => by
    rw [mem_intersect, and_self]
    exact mem_cells.symm

/-- A range and one that may be missing share what lies in both. -/
theorem mem_bind_intersect {range : Option CellRange} :
    c ∈ cellsOf? (range.bind (·.intersect d)) ↔ c ∈ cellsOf? range ∧ c ∈ d := by
  cases range with
  | none => simp [cellsOf?]
  | some r =>
      show c ∈ cellsOf? (r.intersect d) ↔ c ∈ r.cells ∧ c ∈ d
      rw [mem_intersect, mem_cells]

/-- Of three ranges, any two may be taken together first. -/
theorem intersect_assoc (a b d : CellRange) :
    (a.intersect b).bind (·.intersect d) = (b.intersect d).bind (a.intersect ·) := by
  -- On the right the range that may be missing stands behind, so it is brought to the front.
  have hflip : (b.intersect d).bind (a.intersect ·) = (b.intersect d).bind (·.intersect a) :=
    congrArg _ (funext fun r => intersect_comm a r)
  refine eq_of_mem_cellsOf? fun c => ?_
  rw [hflip, mem_bind_intersect, mem_bind_intersect, mem_intersect, mem_intersect]
  rw [and_comm (b := c ∈ a), and_assoc]

end CellRange
end FormulaTable
