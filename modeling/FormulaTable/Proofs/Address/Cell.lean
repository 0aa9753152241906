import FormulaTable.Address.Range
import FormulaTable.Proofs.Address.Column
import FormulaTable.Proofs.Formula.Form
import FormulaTable.Proofs.Text.Trim

/-!
# `FormulaTable.Proofs.Address.Cell`: addresses that are read and written

The address of a cell is read back as the cell, below the last index (`CellRef.ofChars?_chars`).
Whatever text is read as an address, it consists of letters, digits and blanks
(`CellRef.blank_or_alphanum`), and its row and its column have a successor that is still an index
(`CellRef.lt_indexLimit_of_ofChars?`). The bound carries over to all cells of a range that is read
(`CellRange.lt_indexLimit_of_mem`), so the addresses of these cells are read back too.
-/

set_option autoImplicit false

namespace FormulaTable

namespace CellRef

/-! ## Letters and digits -/

section
variable {text letters digits : List Char}

/-- A text that is split consists of letters and the digits after them. -/
theorem parts_of_splitAddress? (h : splitAddress? text = some (letters, digits)) :
    text = letters ++ digits ∧ (∀ c ∈ letters, c.isAlpha) ∧ ∀ c ∈ digits, c.isDigit := by
  simp only [splitAddress?] at h
  split at h
  · next hparts =>
      obtain ⟨rfl, rfl⟩ : text.takeWhile Char.isAlpha = letters ∧
          text.dropWhile Char.isAlpha = digits := by simpa using h
      simp only [Bool.and_eq_true, List.all_eq_true] at hparts
      exact ⟨List.takeWhile_append_dropWhile.symm, fun c hc => List.mem_takeWhile_imp hc, hparts.2⟩
  · simp at h

/-- Letters with digits after them are split where the digits begin. -/
theorem splitAddress?_append (hletters : ∀ c ∈ letters, c.isAlpha)
    (hdigits : ∀ c ∈ digits, c.isDigit)
    (hletters_ne : letters ≠ []) (hdigits_ne : digits ≠ []) :
    splitAddress? (letters ++ digits) = some (letters, digits) := by
  obtain ⟨d, more, rfl⟩ := List.exists_cons_of_ne_nil hdigits_ne
  have hd : d.isAlpha = false := not_isAlpha_of_isDigit (hdigits d List.mem_cons_self)
  obtain ⟨htake, hdrop⟩ := Text.cut_append hletters hd more
  simp only [splitAddress?, htake, hdrop]
  rw [if_pos]
  simp [hletters_ne, hdigits d List.mem_cons_self]
  exact fun c hc => hdigits c (List.mem_cons_of_mem d hc)

end

/-! ## What is read -/

section
variable {text : List Char} {c : CellRef}

/-- An address is read from its letters and its digits. -/
theorem parts_of_ofChars? (h : ofChars? text = some c) :
    ∃ letters digits, splitAddress? (Text.trim text) = some (letters, digits) ∧
      Column.ofLetters letters = .ok c.col ∧ rowOfDigits? digits = some c.row := by
  simp only [ofChars?, Option.bind_eq_bind, Option.bind_eq_some_iff] at h
  obtain ⟨⟨letters, digits⟩, hsplit, col, hcol, row, hrow, hc⟩ := h
  obtain rfl : (⟨row, col⟩ : CellRef) = c := Option.some.inj hc
  refine ⟨letters, digits, hsplit, ?_, hrow⟩
  -- Only the reading of the letters says why it refused, and that is forgotten here.
  cases hletters : Column.ofLetters letters with
  | ok found =>
      obtain rfl : found = col := by simpa [hletters, Except.toOption] using hcol
      rfl
  | error why => simp [hletters, Except.toOption] at hcol

/-- There is nothing but blanks, letters and digits in an address. -/
theorem blank_or_alphanum (h : ofChars? text = some c) {d : Char} (hd : d ∈ text) :
    Text.isBlank d ∨ d.isAlphanum := by
  obtain ⟨letters, digits, hsplit, -, -⟩ := parts_of_ofChars? h
  obtain ⟨htrim, hletters, hdigits⟩ := parts_of_splitAddress? hsplit
  by_cases hblank : Text.isBlank d
  · exact Or.inl hblank
  · -- What is no blank is still there when the text has been trimmed.
    have hmem : d ∈ Text.trim text := Text.mem_trim hd (by simpa using hblank)
    rw [htrim] at hmem
    rcases List.mem_append.mp hmem with hmem | hmem
    · exact Or.inr (isAlphanum_of_isAlpha (hletters d hmem))
    · exact Or.inr (isAlphanum_of_isDigit (hdigits d hmem))

/-- There is no colon in an address. -/
theorem colon_not_mem (h : ofChars? text = some c) : ':' ∉ text := by
  intro hmem
  have hcolon := blank_or_alphanum h hmem
  exact absurd hcolon (by decide)

/-- Rows and columns are read only below the last index. -/
theorem lt_indexLimit_of_ofChars? (h : ofChars? text = some c) :
    c.row + 1 < indexLimit ∧ c.col + 1 < indexLimit := by
  obtain ⟨letters, digits, -, hcol, hrow⟩ := parts_of_ofChars? h
  refine ⟨?_, (Column.ofLetters_eq_ok.mp hcol).2.2.2⟩
  simp only [rowOfDigits?] at hrow
  split at hrow
  · next hnumber =>
      simp only [Bool.and_eq_true, decide_eq_true_eq] at hnumber
      have hrow' : decimalValue digits - 1 = c.row := Option.some.inj hrow
      omega
  · simp at hrow

end

/-! ## What is written -/

/-- There are letters and digits in the address of a cell, and nothing else. -/
theorem isAlphanum_of_mem_chars {c : CellRef} {d : Char} (h : d ∈ c.chars) : d.isAlphanum := by
  rcases List.mem_append.mp h with h | h
  · exact isAlphanum_of_isAlpha (Column.isAlpha_of_mem_letters h)
  · exact isAlphanum_of_isDigit (Nat.isDigit_of_mem_toDigits (by decide) (by decide) h)

/-- The number of a row gives the row back. -/
theorem rowOfDigits?_toDigits {row : Nat} (h : row + 1 < indexLimit) :
    rowOfDigits? (Nat.toDigits 10 (row + 1)) = some row := by
  have hvalue : decimalValue (Nat.toDigits 10 (row + 1)) = row + 1 := by
    rw [decimalValue_eq, Nat.ofDigitChars_ten_toDigits]
  simp [rowOfDigits?, hvalue, h]

/-- The address of a cell is read as the cell, below the last index. -/
theorem ofChars?_chars {c : CellRef} (hrow : c.row + 1 < indexLimit)
    (hcol : c.col + 1 < indexLimit) : ofChars? c.chars = some c := by
  have htrim : Text.trim c.chars = c.chars :=
    Text.trim_of_noBlanks fun d hd => not_isBlank_of_isAlphanum (isAlphanum_of_mem_chars hd)
  have hsplit : splitAddress? c.chars = some (Column.letters c.col, Nat.toDigits 10 (c.row + 1)) :=
    splitAddress?_append (fun _ => Column.isAlpha_of_mem_letters)
      (fun _ => Nat.isDigit_of_mem_toDigits (by decide) (by decide))
      (Column.letters_ne_nil c.col) Nat.toDigits_ne_nil
  -- The letters end where the digits begin, so the text is split as it was put together.
  rw [ofChars?, htrim, hsplit]
  show (do
    let col ← (Column.ofLetters (Column.letters c.col)).toOption
    let row ← rowOfDigits? (Nat.toDigits 10 (c.row + 1))
    return { row, col }) = some c
  rw [Column.ofLetters_letters hcol, rowOfDigits?_toDigits hrow]
  rfl

/-! ## Row by row -/

/-- A cell comes before another one, row by row: it is further up, or in the same row further to the
left. -/
def Before (c d : CellRef) : Prop :=
  c.row < d.row ∨ c.row = d.row ∧ c.col < d.col

/-- Rows and columns that ascend give cells row by row. -/
theorem pairwise_before {rows cols : List Nat} (hrows : rows.Pairwise (· < ·))
    (hcols : cols.Pairwise (· < ·)) :
    (rows.flatMap fun row => cols.map fun col => (⟨row, col⟩ : CellRef)).Pairwise Before := by
  -- In a row the columns decide, between two rows the rows do.
  rw [List.pairwise_flatMap]
  constructor
  · intro row _
    rw [List.pairwise_map]
    exact hcols.imp fun hlt => Or.inr ⟨rfl, hlt⟩
  · refine hrows.imp ?_
    intro row row' hlt c hc d hd
    obtain ⟨col, -, rfl⟩ := List.mem_map.mp hc
    obtain ⟨col', -, rfl⟩ := List.mem_map.mp hd
    exact Or.inl hlt

end CellRef

/-! ## Ranges -/

namespace CellRange

variable {text : List Char} {r : CellRange} {c : CellRef}

/-- The cells that are listed are those that lie in the range. -/
theorem mem_cells : c ∈ r.cells ↔ c ∈ r := by
  obtain ⟨row, col⟩ := c
  have hrow := r.row_le
  have hcol := r.col_le
  show _ ↔ (r.first.row ≤ row ∧ row ≤ r.last.row) ∧ r.first.col ≤ col ∧ col ≤ r.last.col
  simp only [cells, rowCount, colCount, List.mem_flatMap, List.mem_map, List.mem_range'_1,
    CellRef.mk.injEq]
  constructor
  · rintro ⟨row', hrow', col', hcol', rfl, rfl⟩
    omega
  · rintro ⟨hrow', hcol'⟩
    exact ⟨row, by omega, col, by omega, rfl, rfl⟩

/-- A range is read from two addresses with a colon between them. -/
theorem corners_of_ofChars? (h : ofChars? text = some r) :
    ∃ before after a b, text = before ++ ':' :: after ∧ CellRef.ofChars? before = some a ∧
      CellRef.ofChars? after = some b ∧ r = spanning a b := by
  simp only [ofChars?, Option.bind_eq_bind, Option.bind_eq_some_iff] at h
  obtain ⟨⟨before, after⟩, hsplit, a, ha, b, hb, hr⟩ := h
  refine ⟨before, after, a, b, ?_, ha, hb, (Option.some.inj hr).symm⟩
  simp only [splitAtColon?] at hsplit
  split at hsplit
  · simp at hsplit
  · next mark rest hmark =>
      obtain ⟨rfl, rfl⟩ : text.takeWhile (· != ':') = before ∧ rest = after := by
        simpa using hsplit
      -- The character that the search stopped at is the colon.
      obtain rfl : mark = ':' := by
        have hstop := List.head?_dropWhile_not (· != ':') text
        rw [hmark] at hstop
        simpa using hstop
      rw [← hmark, List.takeWhile_append_dropWhile]

/-- Every cell of a range that is read lies below the last index. -/
theorem lt_indexLimit_of_mem (h : ofChars? text = some r) (hc : c ∈ r.cells) :
    c.row + 1 < indexLimit ∧ c.col + 1 < indexLimit := by
  obtain ⟨before, after, a, b, -, ha, hb, rfl⟩ := corners_of_ofChars? h
  have hbound := CellRef.lt_indexLimit_of_ofChars? ha
  have hbound' := CellRef.lt_indexLimit_of_ofChars? hb
  obtain ⟨⟨-, hrow⟩, -, hcol⟩ := mem_cells.mp hc
  simp only [spanning] at hrow hcol
  omega

end CellRange
end FormulaTable
