import FormulaTable.Proofs.Address.Grammar
import FormulaTable.Proofs.Grid.Offset
import Mathlib.Logic.Function.Iterate
import Mathlib.Order.Interval.Finset.Nat

/-!
# `FormulaTable.Proofs.Grid.Walk`: visiting the cells of a range one at a time

A `CellRange.Walk` goes along the rows of a range by counting up, and compares afterwards.
`CellRange.iterate_advance_walk` says where it stands after any number of calls: at the offset that
the number of calls is in rows and columns, and below the last row once all cells have been visited.
So the calls find the cells of the range in their order (`CellRange.nthCall_walk`), and nothing
after that.

The numbers that a walk counts up may be as large as an index. `WordWalk` is the same visit with
indices of 64 bits, whose sums wrap around. The two find the same cells if the last row and the last
column have a successor that is an index (`WordWalk.nthCall_ofRange`): then no sum on the way leaves
the indices. Every range that can be obtained is of this kind (`CellRange.Obtained.hasAddress`),
since an address is read only if its row and its column are, counted from one, and what ranges share
has no other cells than they have. `CellRange.walk_visits_once` joins the two.
-/

set_option autoImplicit false

namespace FormulaTable

/-! ## One call after the other -/

section
variable {α σ τ : Type}

/-- What is left after a call; a call that finds nothing changes nothing. -/
def advance (step : σ → Option (α × σ)) (s : σ) : σ :=
  ((step s).map Prod.snd).getD s

/-- What the call finds that comes after `n` others. -/
def nthCall (step : σ → Option (α × σ)) (s : σ) (n : Nat) : Option α :=
  (step ((advance step)^[n] s)).map Prod.fst

/-- The first call answers with what the state gives. -/
theorem nthCall_zero (step : σ → Option (α × σ)) (s : σ) :
    nthCall step s 0 = (step s).map Prod.fst :=
  rfl

/-- A later call is an earlier one from the state behind the first. -/
theorem nthCall_succ (step : σ → Option (α × σ)) (s : σ) (n : Nat) :
    nthCall step s (n + 1) = nthCall step (advance step s) n :=
  rfl

/-- Once nothing is found, nothing is found any more. -/
theorem nthCall_of_none {step : σ → Option (α × σ)} {s : σ} (h : step s = none) (n : Nat) :
    nthCall step s n = none := by
  have hstay : advance step s = s := by rw [advance, h]; rfl
  rw [nthCall, Function.iterate_fixed hstay, h]
  rfl

/-- Two things that find the same when they are alike, and stay alike, find the same at every
call. -/
theorem nthCall_congr {step : σ → Option (α × σ)} {step' : τ → Option (α × τ)}
    {Alike : σ → τ → Prop}
    (hstep : ∀ s t, Alike s t →
      (step s).map Prod.fst = (step' t).map Prod.fst ∧ Alike (advance step s) (advance step' t))
    {s : σ} {t : τ} (h : Alike s t) (n : Nat) : nthCall step s n = nthCall step' t n := by
  induction n generalizing s t with
  | zero => exact (hstep s t h).1
  | succ n ih => exact ih (hstep s t h).2

end

/-! ## Where a walk stands -/

namespace CellRange

/-- The cell after another one: along the row, and then at the start of the next one. -/
def following (r : CellRange) (c : CellRef) : CellRef :=
  if r.last.col < c.col + 1 then ⟨c.row + 1, r.first.col⟩ else ⟨c.row, c.col + 1⟩

/-- As long as a walk is not below the last row, it finds its cell and goes on to the following
one. -/
theorem Walk.step?_of_le {w : Walk} (h : w.next.row ≤ w.range.last.row) :
    w.step? = some (w.next, { w with next := w.range.following w.next }) :=
  if_neg (Nat.not_lt.mpr h)

/-- A walk below the last row is over. -/
theorem Walk.step?_of_lt {w : Walk} (h : w.range.last.row < w.next.row) : w.step? = none :=
  if_pos h

variable (r : CellRange)

/-- A range has a column at least. -/
theorem colCount_pos : 0 < r.colCount :=
  Nat.succ_pos _

/-- The offset that comes after `n` others, row by row. -/
def nthOffset (n : Nat) : Nat × Nat :=
  (n / r.colCount, n % r.colCount)

/-- A walk that has come as far as an offset. -/
def walkAt (n : Nat) : Walk :=
  { range := r, next := r.cellAt (r.nthOffset n) }

/-- A walk starts at the first offset. -/
theorem walk_eq_walkAt : r.walk = r.walkAt 0 := by
  simp [walk, walkAt, nthOffset, cellAt]

/-- The next offset is one to the right, or at the beginning of the next row. -/
theorem nthOffset_succ (n : Nat) :
    r.nthOffset (n + 1) = if n % r.colCount + 1 = r.colCount then (n / r.colCount + 1, 0)
      else (n / r.colCount, n % r.colCount + 1) := by
  have hpos := r.colCount_pos
  have hlt := Nat.mod_lt n hpos
  have hsplit := Nat.div_add_mod n r.colCount
  rw [nthOffset]
  split
  · next hlast =>
      -- At the end of a row the next offset begins a new one.
      have hnext : r.colCount * (n / r.colCount + 1) = n + 1 := by
        rw [Nat.mul_add, Nat.mul_one]
        omega
      rw [← hnext, Nat.mul_div_cancel_left _ hpos, Nat.mul_mod_right]
  · next hlast =>
      obtain ⟨hdiv, hmod⟩ := (Nat.div_mod_unique (a := n + 1) (d := n / r.colCount) hpos).mpr
        ⟨(by omega : n % r.colCount + 1 + r.colCount * (n / r.colCount) = n + 1), by omega⟩
      rw [hdiv, hmod]

variable {r} {n : Nat}

/-- The rows of the offsets stay in the range as long as there are cells left. -/
theorem nthOffset_fst_lt : (r.nthOffset n).1 < r.rowCount ↔ n < r.rowCount * r.colCount :=
  Nat.div_lt_iff_lt_mul r.colCount_pos

/-- The columns of the offsets always stay in the range. -/
theorem nthOffset_snd_lt : (r.nthOffset n).2 < r.colCount :=
  Nat.mod_lt n r.colCount_pos

/-- The following cell is at the next offset. -/
theorem following_cellAt_nthOffset (r : CellRange) (n : Nat) :
    r.following (r.cellAt (r.nthOffset n)) = r.cellAt (r.nthOffset (n + 1)) := by
  have hcol : n % r.colCount < r.colCount := nthOffset_snd_lt
  have hcols : r.colCount = r.last.col - r.first.col + 1 := rfl
  have hcol_le := r.col_le
  rw [nthOffset_succ, following]
  by_cases hlast : n % r.colCount + 1 = r.colCount
  · rw [if_pos (by simp only [cellAt, nthOffset]; omega), if_pos hlast]
    rfl
  · rw [if_neg (by simp only [cellAt, nthOffset]; omega), if_neg hlast]
    rfl

/-- A walk that has not come to its end finds the cell at its offset, and goes on to the next
one. -/
theorem step?_walkAt (h : n < r.rowCount * r.colCount) :
    (r.walkAt n).step? = some (r.cellAt (r.nthOffset n), r.walkAt (n + 1)) := by
  have hrow : (r.nthOffset n).1 < r.rowCount := nthOffset_fst_lt.mpr h
  have hrows : r.rowCount = r.last.row - r.first.row + 1 := rfl
  have hrow_le := r.row_le
  have hnotBelow : (r.walkAt n).next.row ≤ (r.walkAt n).range.last.row := by
    show r.first.row + (r.nthOffset n).1 ≤ r.last.row
    omega
  rw [Walk.step?_of_le hnotBelow, walkAt, walkAt, following_cellAt_nthOffset]

/-- A walk that has come to its end finds nothing. -/
theorem step?_walkAt_of_le (h : r.rowCount * r.colCount ≤ n) : (r.walkAt n).step? = none := by
  have hrow : ¬ (r.nthOffset n).1 < r.rowCount := fun hlt =>
    absurd (nthOffset_fst_lt.mp hlt) (Nat.not_lt.mpr h)
  have hrows : r.rowCount = r.last.row - r.first.row + 1 := rfl
  apply Walk.step?_of_lt
  show r.last.row < r.first.row + (r.nthOffset n).1
  omega

variable (r)

/-- After any number of calls a walk has come as far as that, or to its end. -/
theorem iterate_advance_walk (n : Nat) :
    (advance Walk.step?)^[n] r.walk = r.walkAt (min n (r.rowCount * r.colCount)) := by
  induction n with
  | zero =>
      rw [Nat.zero_min]
      exact r.walk_eq_walkAt
  | succ n ih =>
      rw [Function.iterate_succ_apply', ih, advance]
      -- Behind the last cell a step changes nothing.
      by_cases hmore : n < r.rowCount * r.colCount
      · rw [Nat.min_eq_left hmore.le, Nat.min_eq_left hmore, step?_walkAt hmore]
        rfl
      · rw [Nat.min_eq_right (by omega), Nat.min_eq_right (by omega),
          step?_walkAt_of_le (Nat.le_refl _)]
        rfl

/-- Every call finds the cell at its offset, as long as there is one. -/
theorem nthCall_walk_eq (n : Nat) :
    nthCall Walk.step? r.walk n
      = if n < r.rowCount * r.colCount then some (r.cellAt (r.nthOffset n)) else none := by
  rw [nthCall, iterate_advance_walk]
  split
  · next hmore =>
      rw [Nat.min_eq_left hmore.le, step?_walkAt hmore]
      rfl
  · next hdone =>
      rw [Nat.min_eq_right (by omega), step?_walkAt_of_le (Nat.le_refl _)]
      rfl

/-! ## The cells in their order -/

/-- Offsets that come later are further down, or in the same row further to the right. -/
theorem before_cellAt_nthOffset {m n : Nat} (h : m < n) :
    (r.cellAt (r.nthOffset m)).Before (r.cellAt (r.nthOffset n)) := by
  have hle : m / r.colCount ≤ n / r.colCount := Nat.div_le_div_right h.le
  simp only [CellRef.Before, cellAt, nthOffset]
  rcases hle.lt_or_eq with hlt | heq
  · exact Or.inl (by omega)
  · have hm := Nat.div_add_mod m r.colCount
    have hn := Nat.div_add_mod n r.colCount
    rw [heq] at hm ⊢
    exact Or.inr ⟨rfl, by omega⟩

/-- The cells of a range are those at its offsets. -/
theorem cells_eq_map_nthOffset :
    r.cells = (List.range (r.rowCount * r.colCount)).map fun n => r.cellAt (r.nthOffset n) := by
  -- A list in order is determined by its members, so only the cells have to be compared.
  apply cells_eq_of_pairwise
  · rw [List.pairwise_map]
    exact List.pairwise_lt_range.imp r.before_cellAt_nthOffset
  · intro c
    have hrows : r.rowCount = r.last.row - r.first.row + 1 := rfl
    have hcols : r.colCount = r.last.col - r.first.col + 1 := rfl
    have hrow_le := r.row_le
    have hcol_le := r.col_le
    rw [mem_iff, List.mem_map]
    constructor
    · rintro ⟨n, hn, rfl⟩
      have hrow : (r.nthOffset n).1 < r.rowCount := nthOffset_fst_lt.mpr (List.mem_range.mp hn)
      have hcol : (r.nthOffset n).2 < r.colCount := nthOffset_snd_lt
      simp only [cellAt]
      omega
    · rintro ⟨hrow, hcol⟩
      -- The number of a cell is its column plus its row times the width, and that gives both back.
      obtain ⟨hdiv, hmod⟩ := (Nat.div_mod_unique (a := c.col - r.first.col
        + r.colCount * (c.row - r.first.row)) r.colCount_pos).mpr ⟨rfl, (by omega)⟩
      have hoffset : r.nthOffset (c.col - r.first.col + r.colCount * (c.row - r.first.row))
          = (c.row - r.first.row, c.col - r.first.col) := Prod.ext hdiv hmod
      refine ⟨c.col - r.first.col + r.colCount * (c.row - r.first.row),
        List.mem_range.mpr (nthOffset_fst_lt.mp ?_), ?_⟩
      · rw [hoffset]
        show c.row - r.first.row < r.rowCount
        omega
      · rw [hoffset, cellAt]
        obtain ⟨row, col⟩ := c
        simp only at hrow hcol ⊢
        congr <;> omega

/-- A range has as many cells as its rows and columns make. -/
theorem length_cells : r.cells.length = r.rowCount * r.colCount := by
  rw [cells_eq_map_nthOffset, List.length_map, List.length_range]

/-- Of two cells of a range, the one at the earlier place is before the other one. -/
theorem before_of_getElem? {m n : Nat} {c d : CellRef} (hlt : m < n) (hm : r.cells[m]? = some c)
    (hn : r.cells[n]? = some d) : c.Before d := by
  obtain ⟨hm_lt, rfl⟩ := List.getElem?_eq_some_iff.mp hm
  obtain ⟨hn_lt, rfl⟩ := List.getElem?_eq_some_iff.mp hn
  exact List.pairwise_iff_getElem.mp r.pairwise_cells m n hm_lt hn_lt hlt

/-- Every cell of a range is at one place. -/
theorem mem_iff_existsUnique_getElem? {c : CellRef} : c ∈ r ↔ ∃! n : Nat, r.cells[n]? = some c := by
  rw [← mem_cells, List.mem_iff_getElem?]
  constructor
  · rintro ⟨n, hn⟩
    refine ⟨n, hn, fun m hm => ?_⟩
    -- At two different places there are two different cells, since one is before the other.
    rcases Nat.lt_trichotomy m n with hlt | heq | hlt
    · exact absurd (r.before_of_getElem? hlt hm hn) (Std.Irrefl.irrefl c)
    · exact heq
    · exact absurd (r.before_of_getElem? hlt hn hm) (Std.Irrefl.irrefl c)
  · rintro ⟨n, hn, -⟩
    exact ⟨n, hn⟩

/-- A range has the rows from its first one to its last. -/
theorem rowCount_eq_card : r.rowCount = (Finset.Icc r.first.row r.last.row).card := by
  rw [Nat.card_Icc, rowCount, Nat.sub_add_comm r.row_le]

/-- A range has the columns from its first one to its last. -/
theorem colCount_eq_card : r.colCount = (Finset.Icc r.first.col r.last.col).card := by
  rw [Nat.card_Icc, colCount, Nat.sub_add_comm r.col_le]

/-- The calls find the cells of the range in their order, and then nothing. -/
theorem nthCall_walk (n : Nat) : nthCall Walk.step? r.walk n = r.cells[n]? := by
  rw [nthCall_walk_eq, cells_eq_map_nthOffset, List.getElem?_map]
  split
  · next hmore =>
      rw [List.getElem?_range hmore]
      rfl
  · next hdone =>
      rw [List.getElem?_eq_none (by rw [List.length_range]; omega)]
      rfl

/-- The cells that are taken from a walk are found by its calls. -/
theorem Walk.getElem?_take (w : Walk) (count n : Nat) :
    (w.take count)[n]? = if n < count then nthCall Walk.step? w n else none := by
  induction count generalizing w n with
  | zero => simp [Walk.take]
  | succ count ih =>
      rw [Walk.take]
      cases hstep : w.step? with
      | none => simp [nthCall_of_none hstep]
      | some found =>
          cases n with
          | zero => simp [nthCall_zero, hstep]
          | succ n =>
              have hnext : advance Walk.step? w = found.2 := by rw [advance, hstep]; rfl
              rw [nthCall_succ, hnext]
              simp [ih]

/-- The first cells that a walk takes are the first cells of the range. -/
theorem take_walk (count : Nat) : r.walk.take count = r.cells.take count := by
  refine List.ext_getElem? fun n => ?_
  rw [Walk.getElem?_take, nthCall_walk, List.getElem?_take]

end CellRange

/-! ## Indices of 64 bits -/

/-- A sum stays below the limit, or it wraps around. -/
theorem toNat_add_one {x : UInt64} (h : x.toNat + 1 < indexLimit) :
    (x + 1).toNat = x.toNat + 1 := by
  rw [UInt64.toNat_add, UInt64.toNat_one]
  exact Nat.mod_eq_of_lt h

/-- An index fits into a word. -/
theorem toNat_ofNat {n : Nat} (h : n < indexLimit) : (UInt64.ofNat n).toNat = n :=
  UInt64.toNat_ofNat_of_lt' h

/-- A visit of the cells of a range with indices of 64 bits, whose sums wrap around. -/
structure WordWalk where
  firstCol : UInt64
  lastRow : UInt64
  lastCol : UInt64
  /-- The row of the cell to be visited next; below the last row when all have been. -/
  row : UInt64
  /-- The column of the cell to be visited next. -/
  col : UInt64

namespace WordWalk

/-- A visit that has not begun. -/
def ofRange (r : CellRange) : WordWalk where
  firstCol := .ofNat r.first.col
  lastRow := .ofNat r.last.row
  lastCol := .ofNat r.last.col
  row := .ofNat r.first.row
  col := .ofNat r.first.col

/-- Visits one cell, going along the row and then to the start of the next one. -/
def step? (w : WordWalk) : Option (CellRef × WordWalk) :=
  if w.lastRow < w.row then none
  else
    some (⟨w.row.toNat, w.col.toNat⟩,
      if w.lastCol < w.col + 1 then { w with row := w.row + 1, col := w.firstCol }
      else { w with col := w.col + 1 })

/-- A visit stands where a walk stands, and the walk is in its range, or below it when it has come
to its end. -/
structure Follows (v : WordWalk) (w : CellRange.Walk) : Prop where
  firstCol : v.firstCol.toNat = w.range.first.col
  lastRow : v.lastRow.toNat = w.range.last.row
  lastCol : v.lastCol.toNat = w.range.last.col
  row : v.row.toNat = w.next.row
  col : v.col.toNat = w.next.col
  hasAddress : w.range.last.HasAddress
  row_le : w.next.row ≤ w.range.last.row + 1
  col_le : w.next.col ≤ w.range.last.col

/-- In both, one call finds the same, and afterwards they stand at the same place. -/
theorem Follows.call {v : WordWalk} {w : CellRange.Walk} (h : v.Follows w) :
    v.step?.map Prod.fst = w.step?.map Prod.fst ∧
      (advance step? v).Follows (advance CellRange.Walk.step? w) := by
  obtain ⟨hlimit, hlimit'⟩ := h.hasAddress
  have hcol_le := h.col_le
  have hrow_eq := h.row
  have hcol_eq := h.col
  have hcell : (⟨v.row.toNat, v.col.toNat⟩ : CellRef) = w.next := by rw [hrow_eq, hcol_eq]
  have hdone : v.lastRow < v.row ↔ w.range.last.row < w.next.row := by
    rw [UInt64.lt_iff_toNat_lt, h.lastRow, hrow_eq]
  by_cases hbelow : w.range.last.row < w.next.row
  · rw [advance, advance, step?, if_pos (hdone.mpr hbelow), CellRange.Walk.step?_of_lt hbelow]
    exact ⟨rfl, h⟩
  · -- Neither the column nor the row is the last index, so adding one to them does not wrap around.
    have hcol : (v.col + 1).toNat = w.next.col + 1 := by rw [toNat_add_one (by omega), hcol_eq]
    have hrow : (v.row + 1).toNat = w.next.row + 1 := by rw [toNat_add_one (by omega), hrow_eq]
    have hlast : v.lastCol < v.col + 1 ↔ w.range.last.col < w.next.col + 1 := by
      rw [UInt64.lt_iff_toNat_lt, h.lastCol, hcol]
    rw [advance, advance, step?, if_neg (fun hlt => hbelow (hdone.mp hlt)),
      CellRange.Walk.step?_of_le (Nat.le_of_not_lt hbelow)]
    refine ⟨congrArg some hcell, ?_⟩
    simp only [Option.map_some, Option.getD_some, CellRange.following, hlast]
    split
    · exact { h with
        row := hrow
        col := h.firstCol
        row_le := by simp only; omega
        col_le := w.range.col_le }
    · exact { h with
        col := hcol
        row_le := by simp only; omega
        col_le := by simp only; omega }

/-- A visit finds what a walk finds, at every call. -/
theorem nthCall_ofRange {r : CellRange} (h : r.last.HasAddress) (n : Nat) :
    nthCall step? (ofRange r) n = nthCall CellRange.Walk.step? r.walk n := by
  obtain ⟨hrow, hcol⟩ := h
  have hrow_le := r.row_le
  have hcol_le := r.col_le
  have hstart : (ofRange r).Follows r.walk :=
    { firstCol := toNat_ofNat (by omega)
      lastRow := toNat_ofNat (by omega)
      lastCol := toNat_ofNat (by omega)
      row := toNat_ofNat (by omega)
      col := toNat_ofNat (by omega)
      hasAddress := ⟨hrow, hcol⟩
      row_le := Nat.le_succ_of_le hrow_le
      col_le := hcol_le }
  exact nthCall_congr (fun _ _ => Follows.call) hstart n

end WordWalk

/-! ## The ranges that can be obtained -/

namespace CellRange

/-- A range that is read from a text, that two such ranges share, or that a grid keeps of one. -/
inductive Obtained : CellRange → Prop where
  | read {text : String} {r : CellRange} (h : ofString? text = some r) : Obtained r
  | shared {a b r : CellRange} (ha : Obtained a) (hb : Obtained b) (h : a.intersect b = some r) :
      Obtained r
  | kept {a r : CellRange} (g : Grid) (ha : Obtained a) (h : g.clip a = some r) : Obtained r

/-- What is shared with a range lies in it. -/
theorem mem_of_mem_intersect {a b r : CellRange} (h : a.intersect b = some r) {c : CellRef}
    (hc : c ∈ r) : c ∈ a := by
  have hshared : c ∈ cellsOf? (a.intersect b) := by
    rw [h]
    exact mem_cells.mpr hc
  exact (mem_intersect.mp hshared).1

/-- All cells of a range that can be obtained have addresses. -/
theorem Obtained.hasAddress {r : CellRange} (h : r.Obtained) : ∀ c ∈ r, c.HasAddress := by
  induction h with
  | read h => exact fun c hc => lt_indexLimit_of_mem h (mem_cells.mpr hc)
  | shared _ _ h ih _ => exact fun c hc => ih c (mem_of_mem_intersect h hc)
  | kept g _ h ih => exact fun c hc => ih c (mem_of_mem_intersect h hc)

/-- The number of indices from one to another, with sums and differences that wrap around. -/
def wordSpan (first last : Nat) : UInt64 :=
  .ofNat last - .ofNat first + 1

/-- There is no wrapping around below the last index. -/
theorem toNat_wordSpan {first last : Nat} (hle : first ≤ last) (hlimit : last + 1 < indexLimit) :
    (wordSpan first last).toNat = last - first + 1 := by
  have hdifference : (UInt64.ofNat last - UInt64.ofNat first).toNat = last - first := by
    rw [← UInt64.ofNat_sub hle, toNat_ofNat (by omega)]
  rw [wordSpan, toNat_add_one (by omega), hdifference]

/-- The row and the column that a walk counts up from are not the last index. -/
theorem hasAddress_iterate_advance {r : CellRange} (h : r.last.HasAddress) {n : Nat}
    (hn : n < r.rowCount * r.colCount) :
    ((advance Walk.step?)^[n] r.walk).next.HasAddress := by
  obtain ⟨hrow, hcol⟩ := h
  have hrow_lt : (r.nthOffset n).1 < r.rowCount := nthOffset_fst_lt.mpr hn
  have hcol_lt : (r.nthOffset n).2 < r.colCount := nthOffset_snd_lt
  have hrows : r.rowCount = r.last.row - r.first.row + 1 := rfl
  have hcols : r.colCount = r.last.col - r.first.col + 1 := rfl
  have hrow_le := r.row_le
  have hcol_le := r.col_le
  rw [iterate_advance_walk, Nat.min_eq_left hn.le]
  simp only [walkAt, cellAt, CellRef.HasAddress]
  omega

/-- A walk finds every cell of a range once, row by row, and then nothing. Take a range that is read
from a text, or that such ranges share, or that a grid keeps of one, and a walk with indices of 64
bits, whose sums wrap around. It has as many rows and columns as there are from its first to its
last one, and these numbers are the same with such indices. Its calls find the cells that lie in it,
each at one call and those that come later at later calls, and so does a walk that counts without a
bound; there are as many as rows times columns, and all calls after those find nothing. None of the
numbers to which one is added on the way is the last index, and neither is the row or the column of
any cell, so that all of them have addresses. -/
theorem walk_visits_once {r : CellRange} (h : r.Obtained) :
    let found := nthCall WordWalk.step? (.ofRange r)
    (r.rowCount = (Finset.Icc r.first.row r.last.row).card ∧
      r.colCount = (Finset.Icc r.first.col r.last.col).card ∧
      (wordSpan r.first.row r.last.row).toNat = r.rowCount ∧
      (wordSpan r.first.col r.last.col).toNat = r.colCount) ∧
    (∀ n, found n = nthCall Walk.step? r.walk n ∧ found n = r.cells[n]?) ∧
    (∀ count, r.walk.take count = r.cells.take count) ∧
    (∀ c, c ∈ r ↔ ∃! n, found n = some c) ∧
    (∀ m n c d, m < n → found m = some c → found n = some d → c.Before d) ∧
    (∀ n, found n = none ↔ r.rowCount * r.colCount ≤ n) ∧
    (∀ n < r.rowCount * r.colCount, ((advance Walk.step?)^[n] r.walk).next.HasAddress) ∧
    ∀ c ∈ r, c.HasAddress := by
  intro found
  have hlast : r.last.HasAddress := h.hasAddress _ r.last_mem
  -- The word arithmetic is left behind here: everything else is about the list of the cells.
  have hword : ∀ n, found n = nthCall Walk.step? r.walk n := WordWalk.nthCall_ofRange hlast
  have hfound : ∀ n, found n = r.cells[n]? := fun n => (hword n).trans (r.nthCall_walk n)
  refine ⟨⟨r.rowCount_eq_card, r.colCount_eq_card, toNat_wordSpan r.row_le hlast.1,
      toNat_wordSpan r.col_le hlast.2⟩, fun n => ⟨hword n, hfound n⟩, r.take_walk, ?_, ?_, ?_,
    fun n hn => hasAddress_iterate_advance hlast hn, h.hasAddress⟩
  · intro c
    simp only [hfound]
    exact r.mem_iff_existsUnique_getElem?
  · intro m n c d hlt hm hn
    rw [hfound] at hm hn
    exact r.before_of_getElem? hlt hm hn
  · intro n
    rw [hfound, List.getElem?_eq_none_iff, length_cells]

/-- The two cells at the end of all rows and columns that have addresses: what the last two rows
share with the last column. -/
theorem walk_visits_once_at_end :
    let rows : CellRange := .spanning ⟨indexLimit - 3, 0⟩ ⟨indexLimit - 2, indexLimit - 2⟩
    let column : CellRange := .spanning ⟨0, indexLimit - 2⟩ ⟨indexLimit - 2, indexLimit - 2⟩
    let corner : CellRange :=
      .spanning ⟨indexLimit - 3, indexLimit - 2⟩ ⟨indexLimit - 2, indexLimit - 2⟩
    let found := nthCall WordWalk.step? (.ofRange corner)
    ofString? "A18446744073709551614:GKGWBYLWRXTLPO18446744073709551615" = some rows ∧
      ofString? "gkgwbylwrxtlpo18446744073709551615:GKGWBYLWRXTLPO1" = some column ∧
      corner.Obtained ∧ corner.rowCount * corner.colCount = 2 ∧
      found 0 = some ⟨indexLimit - 3, indexLimit - 2⟩ ∧
      found 1 = some ⟨indexLimit - 2, indexLimit - 2⟩ ∧ ∀ n, found n = none ↔ 2 ≤ n := by
  intro rows column corner found
  have hrows : ofString? "A18446744073709551614:GKGWBYLWRXTLPO18446744073709551615"
      = some rows := by
    decide +kernel
  have hcolumn : ofString? "gkgwbylwrxtlpo18446744073709551615:GKGWBYLWRXTLPO1" = some column := by
    decide +kernel
  -- Two ranges that reach the end of the index space share two cells of the last column.
  have hcorner : corner.Obtained := .shared (.read hrows) (.read hcolumn) (by decide)
  obtain ⟨-, hcells, -, -, -, hend, -, -⟩ := walk_visits_once hcorner
  have hcount : corner.rowCount * corner.colCount = 2 := by decide
  rw [hcount] at hend
  exact ⟨hrows, hcolumn, hcorner, hcount, (hcells 0).2.trans (by decide),
    (hcells 1).2.trans (by decide), hend⟩

end CellRange
end FormulaTable
