import FormulaTable.Address.Column

/-!
# `FormulaTable.Proofs.Address.Column`: the letters of a column are a numeral

`Column.count` is the number that letters count, to base 26 without a zero and without any limit.
`Column.ofLetters_eq_ok` says which names are read, and as what: letters only, at least one, that
count below the limit; the column is one less than the count. The limit is checked after every
letter, but the count only grows along a name, so checking the whole name comes to the same.

`Column.ofLetters_letters` reads a name that has been written, below the limit.
`Column.ofLetters_letters_eq` says what becomes of the other names: they are refused as too large.
Among the indices there is one of them, the last, because its name counts one more than an index
(`Column.last_column_refused`).
-/

set_option autoImplicit false

namespace FormulaTable.Column

/-- The number that letters count, after `counted` for those before them. -/
def countFrom (counted : Nat) (name : List Char) : Nat :=
  name.foldl (fun total c => total * 26 + letterValue c) counted

/-- The number that letters count. -/
def count (name : List Char) : Nat :=
  countFrom 0 name

/-- A letter moves what is counted in front of it up by one place. -/
theorem countFrom_cons (counted : Nat) (c : Char) (name : List Char) :
    countFrom counted (c :: name) = countFrom (counted * 26 + letterValue c) name :=
  rfl

/-- Letters are counted on from those in front of them. -/
theorem countFrom_append (counted : Nat) (name more : List Char) :
    countFrom counted (name ++ more) = countFrom (countFrom counted name) more :=
  List.foldl_append

/-- Every letter counts one at least. -/
theorem letterValue_pos (c : Char) : 0 < letterValue c :=
  Nat.succ_pos _

/-- Counting on never makes less. -/
theorem le_countFrom (counted : Nat) (name : List Char) : counted ≤ countFrom counted name := by
  induction name generalizing counted with
  | nil => exact Nat.le_refl counted
  | cons c name ih =>
      have hstep : counted * 26 + letterValue c ≤ countFrom (counted * 26 + letterValue c) name :=
        ih _
      rw [countFrom_cons]
      omega

/-- A name counts something. -/
theorem count_pos {name : List Char} (h : name ≠ []) : 0 < count name := by
  obtain ⟨c, rest, rfl⟩ := List.exists_cons_of_ne_nil h
  have hletter := letterValue_pos c
  have hgrows := le_countFrom (0 * 26 + letterValue c) rest
  rw [count, countFrom_cons]
  omega

/-! ## Reading a name -/

/-- Letters are read to the number they count, if they are letters and the number is below the
limit. -/
theorem foldlM_addLetter_eq_ok {whole name : List Char} {counted total : Nat}
    (hcounted : counted < indexLimit) :
    name.foldlM (addLetter whole) counted = .ok total ↔
      (∀ c ∈ name, c.isAlpha) ∧ countFrom counted name = total ∧ total < indexLimit := by
  induction name generalizing counted with
  | nil =>
      show Except.ok counted = .ok total ↔ _
      simp only [List.not_mem_nil, false_implies, implies_true, true_and, Except.ok.injEq]
      exact ⟨fun h => ⟨h, h ▸ hcounted⟩, fun h => h.1⟩
  | cons c name ih =>
      rw [List.foldlM_cons, countFrom_cons, addLetter]
      by_cases hletter : c.isAlpha
      · rw [if_pos hletter]
        have hletters : (∀ d ∈ c :: name, d.isAlpha) ↔ ∀ d ∈ name, d.isAlpha := by
          simp [hletter]
        rw [hletters]
        by_cases hlimit : counted * 26 + letterValue c < indexLimit
        · simp only [if_pos hlimit]
          exact ih hlimit
        · -- Beyond the limit the letters after this one cannot bring the number back.
          simp only [if_neg hlimit]
          have hgrows := le_countFrom (counted * 26 + letterValue c) name
          constructor
          · intro h
            cases h
          · rintro ⟨-, rfl, hlt⟩
            omega
      · -- Any other character is refused, wherever it stands.
        rw [if_neg hletter]
        constructor
        · intro h
          cases h
        · intro h
          exact absurd (h.1 c List.mem_cons_self) hletter

/-- Letters that count up to the limit or beyond are refused, and the refusal names the whole
name. -/
theorem foldlM_addLetter_eq_error {whole name : List Char} {counted : Nat}
    (hletters : ∀ c ∈ name, c.isAlpha) (hcounted : counted < indexLimit)
    (hlimit : indexLimit ≤ countFrom counted name) :
    name.foldlM (addLetter whole) counted = .error (.columnTooLarge (String.ofList whole)) := by
  induction name generalizing counted with
  | nil =>
      have hsame : countFrom counted [] = counted := rfl
      omega
  | cons c name ih =>
      have hletter : c.isAlpha := hletters c List.mem_cons_self
      rw [List.foldlM_cons, addLetter, if_pos hletter]
      by_cases hstep : counted * 26 + letterValue c < indexLimit
      · -- The limit is not reached yet, so a letter further on reaches it.
        simp only [if_pos hstep]
        exact ih (fun d hd => hletters d (List.mem_cons_of_mem c hd)) hstep hlimit
      · simp only [if_neg hstep]
        rfl

/-- A name is read if it consists of letters, at least one, and counts below the limit. The column
is one less than the count. -/
theorem ofLetters_eq_ok {name : List Char} {column : Nat} :
    ofLetters name = .ok column ↔
      name ≠ [] ∧ (∀ c ∈ name, c.isAlpha) ∧ count name = column + 1 ∧ column + 1 < indexLimit := by
  cases name with
  | nil => simp [ofLetters]
  | cons c name =>
      have hread : ∀ total, (c :: name).foldlM (addLetter (c :: name)) 0 = .ok total ↔ _ :=
        fun total => foldlM_addLetter_eq_ok (by decide)
      -- A name counts one at least, so there is a column below its count.
      have hpos : 0 < count (c :: name) := count_pos (List.cons_ne_nil c name)
      rw [ofLetters, if_neg (by simp)]
      cases hfold : (c :: name).foldlM (addLetter (c :: name)) 0 with
      | ok total =>
          obtain ⟨hletters, hcount, hlimit⟩ := (hread total).mp hfold
          have hcount' : count (c :: name) = total := hcount
          show Except.ok (total - 1) = .ok column ↔ _
          rw [Except.ok.injEq, hcount']
          constructor
          · intro h
            exact ⟨List.cons_ne_nil c name, hletters, by omega, by omega⟩
          · rintro ⟨-, -, h, -⟩
            omega
      -- The reader fails only where the right side does not hold.
      | error why =>
          constructor
          · intro h
            cases h
          · rintro ⟨-, hletters, hcount, hlimit⟩
            have hok := (hread (column + 1)).mpr ⟨hletters, hcount, hlimit⟩
            rw [hfold] at hok
            cases hok

/-! ## Reading a name that has been written -/

/-- The capital for a digit is a letter, and it counts one more than the digit. -/
theorem letter_spec {digit : Nat} (h : digit < 26) :
    (letter digit).isAlpha ∧ letterValue (letter digit) = digit + 1 := by
  have hall : ∀ d : Fin 26, (letter d).isAlpha ∧ letterValue (letter d) = d + 1 := by decide
  exact hall ⟨digit, h⟩

/-- Every column has a name. -/
theorem letters_ne_nil (column : Nat) : letters column ≠ [] := by
  rw [letters]
  split <;> simp

/-- A name is made of letters. -/
theorem isAlpha_of_mem_letters {column : Nat} {c : Char} (h : c ∈ letters column) : c.isAlpha := by
  induction column using letters.induct with
  | case1 column hsmall =>
      rw [letters, if_pos hsmall, List.mem_singleton] at h
      rw [h]
      exact (letter_spec hsmall).1
  | case2 column hlarge ih =>
      rw [letters, if_neg hlarge, List.mem_append, List.mem_singleton] at h
      rcases h with h | rfl
      · exact ih h
      · exact (letter_spec (Nat.mod_lt _ (by decide))).1

/-- The name of a column counts one more than the column. -/
theorem count_letters (column : Nat) : count (letters column) = column + 1 := by
  induction column using letters.induct with
  | case1 column hsmall =>
      rw [letters, if_pos hsmall]
      show 0 * 26 + letterValue (letter column) = column + 1
      rw [(letter_spec hsmall).2]
      omega
  | case2 column hlarge ih =>
      rw [letters, if_neg hlarge, count, countFrom_append]
      show count (letters (column / 26 - 1)) * 26 + letterValue (letter (column % 26)) = column + 1
      rw [ih, (letter_spec (Nat.mod_lt _ (by decide))).2]
      -- The column has a digit in front, so `column / 26` is no zero.
      omega

/-- Reading the name of a column gives the column back, below the limit. -/
theorem ofLetters_letters {column : Nat} (h : column + 1 < indexLimit) :
    ofLetters (letters column) = .ok column :=
  ofLetters_eq_ok.mpr
    ⟨letters_ne_nil column, fun _ => isAlpha_of_mem_letters, count_letters column, h⟩

/-- The name of a column is read as the column, if the number one above it is an index too.
Otherwise it is refused as too large. -/
theorem ofLetters_letters_eq (column : Nat) :
    ofLetters (letters column)
      = if column + 1 < indexLimit then .ok column
        else .error (.columnTooLarge (String.ofList (letters column))) := by
  by_cases hlimit : column + 1 < indexLimit
  · rw [if_pos hlimit, ofLetters_letters hlimit]
  · have hcount : indexLimit ≤ countFrom 0 (letters column) := by
      show indexLimit ≤ count (letters column)
      rw [count_letters]
      omega
    have hne : (letters column).isEmpty = false := by simp [letters_ne_nil]
    rw [if_neg hlimit, ofLetters, hne,
      foldlM_addLetter_eq_error (fun _ => isAlpha_of_mem_letters) (by decide) hcount]
    rfl

/-- The last index has a name as every other one, but the name is not read. -/
theorem last_column_refused :
    letters (indexLimit - 1) = "GKGWBYLWRXTLPP".toList ∧
      ofLetters "GKGWBYLWRXTLPP".toList = .error (.columnTooLarge "GKGWBYLWRXTLPP") ∧
      ¬ ∀ column, column < indexLimit → ofLetters (letters column) = .ok column := by
  have hname : letters (indexLimit - 1) = "GKGWBYLWRXTLPP".toList := by decide +kernel
  have hread : ofLetters "GKGWBYLWRXTLPP".toList = .error (.columnTooLarge "GKGWBYLWRXTLPP") := rfl
  refine ⟨hname, hread, ?_⟩
  intro hall
  have hlast := hall (indexLimit - 1) (by decide)
  rw [hname, hread] at hlast
  cases hlast

end FormulaTable.Column
