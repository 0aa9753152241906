import FormulaTable.Proofs.Address.Cell
import Mathlib.Data.Nat.Digits.Defs

/-!
# `FormulaTable.Proofs.Address.Grammar`: the texts that are addresses, and those that are ranges

An address is a numeral of letters for the column and a numeral of digits for the row behind it
(`CellRef.Spelling`). The values of both are written here as sums over their places
(`placeValue`), while the reader goes along them and keeps a running total;
`placeValue_eq_foldl` says that this is the same.

* `CellRef.ofChars?_eq_some_iff`: these texts and no others are read as addresses, apart from blanks
  around them.
* `CellRange.ofChars?_corners`: two addresses with a colon between them are read as the range that
  their cells span.
* `CellRef.addresses_read_exactly` joins the two with what is written: the address of every cell
  that has one is read back, and so is a range, from any two of its opposite corners.
-/

set_option autoImplicit false

namespace FormulaTable

/-! ## Numerals -/

/-- The number that a numeral to some base stands for: the last character has the place of the ones,
and every place counts `base` times the one behind it. -/
def placeValue (base : Nat) (value : Char → Nat) (numeral : List Char) : Nat :=
  Nat.ofDigits base (numeral.reverse.map value)

/-- The number of a numeral is found by going along it from the front. -/
theorem placeValue_eq_foldl (base : Nat) (value : Char → Nat) (numeral : List Char) :
    placeValue base value numeral
      = numeral.foldl (fun total c => total * base + value c) 0 := by
  rw [placeValue, List.map_reverse, Nat.ofDigits_eq_foldr, List.foldr_reverse, List.foldl_map]
  congr 1
  funext total c
  show value c + base * total = total * base + value c
  rw [Nat.mul_comm, Nat.add_comm]

/-- What a decimal digit counts. -/
def digitValue (c : Char) : Nat :=
  c.toNat - '0'.toNat

/-- The number of a column is what its letters stand for to base 26. -/
theorem Column.count_eq_placeValue (name : List Char) :
    count name = placeValue 26 letterValue name :=
  (placeValue_eq_foldl 26 letterValue name).symm

/-- The value of digits is what they stand for to base 10. -/
theorem decimalValue_eq_placeValue (digits : List Char) :
    decimalValue digits = placeValue 10 digitValue digits := by
  rw [decimalValue_eq, placeValue_eq_foldl, Nat.ofDigitChars]
  congr 1
  funext total c
  show 10 * total + (c.toNat - '0'.toNat) = total * 10 + digitValue c
  rw [Nat.mul_comm, digitValue]

/-! ## Addresses -/

namespace CellRef

/-- A cell has an address if the numbers of its row and of its column, counted from one, are
indices. -/
def HasAddress (c : CellRef) : Prop :=
  c.row + 1 < indexLimit ∧ c.col + 1 < indexLimit

instance (c : CellRef) : Decidable c.HasAddress :=
  inferInstanceAs (Decidable (_ ∧ _))

/-- The parts of an address: letters of either case, which are the number of the column to base 26
with `A` for one and `Z` for twenty-six, and digits, which are the number of the row and may begin
with zeros. -/
structure Spelling (c : CellRef) (letters digits : List Char) : Prop where
  letters_ne_nil : letters ≠ []
  digits_ne_nil : digits ≠ []
  isAlpha : ∀ d ∈ letters, d.isAlpha
  isDigit : ∀ d ∈ digits, d.isDigit
  column_eq : placeValue 26 Column.letterValue letters = c.col + 1
  row_eq : placeValue 10 digitValue digits = c.row + 1
  hasAddress : c.HasAddress

/-- The number of a row is read if it is an index, and no zero. -/
theorem rowOfDigits?_eq_some_iff {digits : List Char} {row : Nat} :
    rowOfDigits? digits = some row ↔
      placeValue 10 digitValue digits = row + 1 ∧ row + 1 < indexLimit := by
  simp only [rowOfDigits?, decimalValue_eq_placeValue, Bool.and_eq_true, decide_eq_true_eq]
  split
  · next hnumber =>
      rw [Option.some.injEq]
      omega
  · next hnumber =>
      simp only [reduceCtorEq, false_iff]
      omega

variable {text : List Char} {c : CellRef}

/-- A text is read as a cell if it spells the address of the cell, with or without blanks around
it. -/
theorem ofChars?_eq_some_iff :
    ofChars? text = some c ↔
      ∃ letters digits, Text.trim text = letters ++ digits ∧ c.Spelling letters digits := by
  constructor
  · intro h
    obtain ⟨letters, digits, hsplit, hcol, hrow⟩ := parts_of_ofChars? h
    obtain ⟨htext, hletters, hdigits⟩ := parts_of_splitAddress? hsplit
    obtain ⟨hne, -, hcount, -⟩ := Column.ofLetters_eq_ok.mp hcol
    have hrow' := (rowOfDigits?_eq_some_iff.mp hrow).1
    -- No digits would be the row zero, and rows count from one.
    have hdigits_ne : digits ≠ [] := by
      rintro rfl
      have hzero : placeValue 10 digitValue [] = 0 := rfl
      omega
    exact ⟨letters, digits, htext, hne, hdigits_ne, hletters, hdigits,
      (Column.count_eq_placeValue letters).symm.trans hcount, hrow', lt_indexLimit_of_ofChars? h⟩
  · rintro ⟨letters, digits, htext, hspelling⟩
    have hsplit : splitAddress? (Text.trim text) = some (letters, digits) := by
      rw [htext]
      exact splitAddress?_append hspelling.isAlpha hspelling.isDigit hspelling.letters_ne_nil
        hspelling.digits_ne_nil
    have hcol : Column.ofLetters letters = .ok c.col :=
      Column.ofLetters_eq_ok.mpr ⟨hspelling.letters_ne_nil, hspelling.isAlpha,
        (Column.count_eq_placeValue letters).trans hspelling.column_eq, hspelling.hasAddress.2⟩
    have hrow : rowOfDigits? digits = some c.row :=
      rowOfDigits?_eq_some_iff.mpr ⟨hspelling.row_eq, hspelling.hasAddress.1⟩
    rw [ofChars?, hsplit]
    show (do
      let col ← (Column.ofLetters letters).toOption
      let row ← rowOfDigits? digits
      return { row, col }) = some c
    rw [hcol, hrow]
    rfl

end CellRef

/-! ## Ranges -/

namespace CellRange

/-- A text without a colon in front is split at the first colon behind it. -/
theorem splitAtColon?_append {before after : List Char} (h : ':' ∉ before) :
    splitAtColon? (before ++ ':' :: after) = some (before, after) := by
  have hbefore : ∀ d ∈ before, (d != ':') = true := by
    intro d hd
    have hne : d ≠ ':' := fun heq => h (heq ▸ hd)
    simpa using hne
  obtain ⟨htake, hdrop⟩ := Text.cut_append hbefore (c := ':') (by simp) after
  rw [splitAtColon?, hdrop, htake]

/-- Two addresses with a colon between them are read as the range that their cells span. -/
theorem ofChars?_corners {p q : CellRef} (hp : p.HasAddress) (hq : q.HasAddress) :
    ofChars? (p.chars ++ ':' :: q.chars) = some (spanning p q) := by
  have hreadp : CellRef.ofChars? p.chars = some p := CellRef.ofChars?_chars hp.1 hp.2
  have hreadq : CellRef.ofChars? q.chars = some q := CellRef.ofChars?_chars hq.1 hq.2
  rw [ofChars?, splitAtColon?_append (CellRef.colon_not_mem hreadp)]
  show (do return spanning (← CellRef.ofChars? p.chars) (← CellRef.ofChars? q.chars))
    = some (spanning p q)
  rw [hreadp, hreadq]
  rfl

/-- The pairs of opposite corners of the range that two cells span, in either order. -/
def oppositeCorners (a b : CellRef) : List (CellRef × CellRef) :=
  [(a, b), (b, a), (⟨a.row, b.col⟩, ⟨b.row, a.col⟩), (⟨b.row, a.col⟩, ⟨a.row, b.col⟩)]

/-- Any two opposite corners span the range. -/
theorem spanning_of_mem_oppositeCorners {a b : CellRef} {corners : CellRef × CellRef}
    (h : corners ∈ oppositeCorners a b) : spanning corners.1 corners.2 = spanning a b := by
  simp only [oppositeCorners, List.mem_cons, List.not_mem_nil, or_false] at h
  rcases h with rfl | rfl | rfl | rfl
  · rfl
  · simp only [spanning, Nat.min_comm, Nat.max_comm]
  · simp only [spanning, Nat.min_comm, Nat.max_comm]
  · simp only [spanning, Nat.min_comm, Nat.max_comm]

/-- The corners of a range of cells that have addresses have addresses. -/
theorem hasAddress_of_mem_oppositeCorners {a b : CellRef} (ha : a.HasAddress) (hb : b.HasAddress)
    {corners : CellRef × CellRef} (h : corners ∈ oppositeCorners a b) :
    corners.1.HasAddress ∧ corners.2.HasAddress := by
  simp only [oppositeCorners, List.mem_cons, List.not_mem_nil, or_false] at h
  rcases h with rfl | rfl | rfl | rfl
  · exact ⟨ha, hb⟩
  · exact ⟨hb, ha⟩
  · exact ⟨⟨ha.1, hb.2⟩, hb.1, ha.2⟩
  · exact ⟨⟨hb.1, ha.2⟩, ha.1, hb.2⟩

end CellRange

/-! ## What is read and what is written -/

/-- Addresses are read exactly. A text is the address of a cell if and only if it is, without the
blanks around it, letters and digits that are the numbers of the column and of the row, and both
numbers are indices. So every cell that is read has an address, and every cell that has one is read
back from it. Two addresses with a colon between them are the range that the cells span, whichever
two opposite corners they are and in whichever order, and the range is read back from its own
text. -/
theorem CellRef.addresses_read_exactly :
    (∀ text c, CellRef.ofString? text = some c ↔
      ∃ letters digits, Text.trim text.toList = letters ++ digits ∧ c.Spelling letters digits) ∧
    (∀ text c, CellRef.ofString? text = some c → c.HasAddress) ∧
    (∀ c : CellRef, c.HasAddress → CellRef.ofString? c.toText = some c) ∧
    ∀ a b : CellRef, a.HasAddress → b.HasAddress →
      (∀ corners ∈ CellRange.oppositeCorners a b,
        CellRange.ofString? (corners.1.toText ++ ":" ++ corners.2.toText) = some (.spanning a b)) ∧
      CellRange.ofString? (CellRange.spanning a b).toText = some (.spanning a b) := by
  refine ⟨fun text c => ofChars?_eq_some_iff, fun text c => lt_indexLimit_of_ofChars?, ?_, ?_⟩
  · intro c hc
    rw [ofString?, toText, String.toList_ofList]
    exact ofChars?_chars hc.1 hc.2
  · intro a b ha hb
    constructor
    · intro corners hcorners
      -- Each pair of opposite corners spans the same range, so one reading does for all.
      obtain ⟨hfirst, hsecond⟩ := CellRange.hasAddress_of_mem_oppositeCorners ha hb hcorners
      have htext : (corners.1.toText ++ ":" ++ corners.2.toText).toList
          = corners.1.chars ++ ':' :: corners.2.chars := by
        simp [toText]
      rw [CellRange.ofString?, htext, CellRange.ofChars?_corners hfirst hsecond,
        CellRange.spanning_of_mem_oppositeCorners hcorners]
    · -- The range is written by its first and last cell, and those are opposite corners too.
      obtain ⟨hrow, hcol⟩ := ha
      obtain ⟨hrow', hcol'⟩ := hb
      have hfirst : (CellRange.spanning a b).first.HasAddress := by
        simp only [HasAddress, CellRange.spanning]
        omega
      have hlast : (CellRange.spanning a b).last.HasAddress := by
        simp only [HasAddress, CellRange.spanning]
        omega
      rw [CellRange.ofString?, CellRange.toText, String.toList_ofList, CellRange.chars,
        CellRange.ofChars?_corners hfirst hlast]
      simp [CellRange.spanning]

/-- Blanks, small letters and zeros in front do not matter. The last row that has an address is read
back, and a range from its top right and bottom left corners. -/
theorem CellRef.addresses_read_at_last_row :
    let top : CellRef := ⟨6, 2⟩
    let bottom : CellRef := ⟨indexLimit - 2, 27⟩
    CellRef.ofString? " aB007\n" = some ⟨6, 27⟩ ∧ top.HasAddress ∧ bottom.HasAddress ∧
      CellRef.ofString? bottom.toText = some bottom ∧
      CellRange.ofString? ((⟨6, 27⟩ : CellRef).toText ++ ":" ++
        (⟨indexLimit - 2, 2⟩ : CellRef).toText)
        = some ⟨top, bottom, by decide, by decide⟩ := by
  intro top bottom
  obtain ⟨hexact, -, hprinted, hranges⟩ := addresses_read_exactly
  have htop : top.HasAddress := by decide
  have hbottom : bottom.HasAddress := by decide
  have hspelling : (⟨6, 27⟩ : CellRef).Spelling "aB".toList "007".toList :=
    ⟨by decide, by decide, List.all_eq_true.mp rfl, List.all_eq_true.mp rfl, rfl, rfl, by decide⟩
  refine ⟨(hexact " aB007\n" _).mpr ⟨"aB".toList, "007".toList, by decide, hspelling⟩, htop,
    hbottom, hprinted bottom hbottom, ?_⟩
  -- The two cells that are written are the other corners of the range.
  rw [(hranges top bottom htop hbottom).1 (⟨6, 27⟩, ⟨indexLimit - 2, 2⟩) (by decide)]
  decide

end FormulaTable
