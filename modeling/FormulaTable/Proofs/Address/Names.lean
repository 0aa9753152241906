import FormulaTable.Proofs.Formula.Letters
import Mathlib.Data.List.Shortlex

/-!
# `FormulaTable.Proofs.Address.Names`: every column has one name

A name counts to base 26 without a zero, so two different rows of capitals never count the same: the
longer one counts more, and of two equally long ones the one that comes later in the alphabet
(`Column.count_lt_of_shortlex`). Hence a name that is read is, in capitals, the name that is written
(`Column.letters_of_count`), and names are ordered as the columns are.

`Column.ofLetters_eq_error_iff` says why any other text is refused. The reader goes along the text
and stops at the first character that is no letter, or at the first letter with which the number is
no index any more, so the letters in front of the stop decide which of the two it is
(`Column.Refusal`).

`Column.names_decoded` puts these together.
-/

set_option autoImplicit false

namespace FormulaTable.Column

/-! ## Capitals in their order -/

/-- The letters from `A` to `Z` count one to twenty-six, and so do those from `a` to `z`. -/
theorem letterValue_of_lt {place : Nat} (h : place < 26) :
    letterValue (Char.ofNat ('A'.toNat + place)) = place + 1 ∧
      letterValue (Char.ofNat ('a'.toNat + place)) = place + 1 := by
  have hall : ∀ p : Fin 26, letterValue (Char.ofNat ('A'.toNat + p)) = p + 1 ∧
      letterValue (Char.ofNat ('a'.toNat + p)) = p + 1 := by decide
  exact hall ⟨place, h⟩

/-- A capital counts its place in the alphabet. -/
theorem letterValue_of_isUpper {c : Char} (h : c.isUpper) :
    letterValue c + 64 = c.toNat ∧ letterValue c ≤ 26 := by
  have hrange : 65 ≤ c.toNat ∧ c.toNat ≤ 90 := by
    simp only [Char.isUpper, ge_iff_le, decide_eq_true_eq, UInt32.le_iff_toNat_le] at h
    exact h
  rw [letterValue, Char.toUpper_eq_of_not_isLower (Char.not_isLower_of_isUpper h)]
  show c.toNat - 65 + 1 + 64 = c.toNat ∧ c.toNat - 65 + 1 ≤ 26
  omega

/-- A capital that comes later counts more. -/
theorem letterValue_lt {c d : Char} (hc : c.isUpper) (hd : d.isUpper) (h : c < d) :
    letterValue c < letterValue d := by
  have hlt : c.toNat < d.toNat := UInt32.lt_iff_toNat_lt.mp h
  have hvalue := (letterValue_of_isUpper hc).1
  have hvalue' := (letterValue_of_isUpper hd).1
  omega

/-! ## Names in their order -/

section
variable {name name' : List Char} (hname : ∀ c ∈ name, c.isUpper)

include hname in
/-- What is counted in front decides, whatever equally many letters follow. -/
theorem countFrom_lt_of_lt (hlength : name.length = name'.length) {counted counted' : Nat}
    (h : counted < counted') : countFrom counted name < countFrom counted' name' := by
  induction name generalizing name' counted counted' with
  | nil =>
      obtain rfl : name' = [] := List.length_eq_zero_iff.mp hlength.symm
      exact h
  | cons c rest ih =>
      obtain ⟨d, rest', rfl⟩ := List.exists_cons_of_length_eq_add_one hlength.symm
      have hle := (letterValue_of_isUpper (hname c List.mem_cons_self)).2
      have hpos := letterValue_pos d
      rw [countFrom_cons, countFrom_cons]
      -- No letter counts more than twenty-six, so it cannot make up for one that is missing in
      -- front.
      exact ih (fun e he => hname e (List.mem_cons_of_mem c he)) (Nat.succ.inj hlength) (by omega)

variable (hname' : ∀ c ∈ name', c.isUpper)

include hname hname' in
/-- Of two names of the same length, the later one in the alphabet counts more. -/
theorem countFrom_lt_of_lex (hlength : name.length = name'.length)
    (h : List.Lex (· < ·) name name') (counted : Nat) :
    countFrom counted name < countFrom counted name' := by
  induction h generalizing counted with
  | nil => cases hlength
  | cons _ ih =>
      rw [countFrom_cons, countFrom_cons]
      exact ih (fun e he => hname e (List.mem_cons_of_mem _ he))
        (fun e he => hname' e (List.mem_cons_of_mem _ he)) (Nat.succ.inj hlength) _
  | rel hlt =>
      have hvalue := letterValue_lt (hname _ List.mem_cons_self) (hname' _ List.mem_cons_self) hlt
      rw [countFrom_cons, countFrom_cons]
      exact countFrom_lt_of_lt (fun e he => hname e (List.mem_cons_of_mem _ he))
        (Nat.succ.inj hlength) (by omega)

include hname hname' in
/-- A name that comes later counts more: a longer one, or one of the same length that is later in
the alphabet. -/
theorem count_lt_of_shortlex (h : List.Shortlex (· < ·) name name') : count name < count name' := by
  rcases List.shortlex_def.mp h with hshorter | ⟨hlength, hlex⟩
  · -- The letters that the longer name has in front count something.
    have hfront : 0 < count (name'.take (name'.length - name.length)) := by
      refine count_pos (List.ne_nil_of_length_pos ?_)
      rw [List.length_take]
      omega
    have hback : name.length = (name'.drop (name'.length - name.length)).length := by
      rw [List.length_drop]
      omega
    rw [← List.take_append_drop (name'.length - name.length) name', count, count, countFrom_append]
    exact countFrom_lt_of_lt hname hback hfront
  · exact countFrom_lt_of_lex hname hname' hlength hlex 0

include hname hname' in
/-- Capitals that count the same are the same name. -/
theorem eq_of_count_eq (h : count name = count name') : name = name' := by
  rcases trichotomous_of (List.Shortlex (· < ·)) name name' with hlt | heq | hlt
  · exact absurd h (count_lt_of_shortlex hname hname' hlt).ne
  · exact heq
  · exact absurd h.symm (count_lt_of_shortlex hname' hname hlt).ne

end

/-- The name of a column is made of capitals. -/
theorem isUpper_of_mem_letters {column : Nat} {c : Char} (h : c ∈ letters column) : c.isUpper := by
  have hletter : ∀ digit < 26, (letter digit).isUpper := by decide
  induction column using letters.induct with
  | case1 column hsmall =>
      rw [letters, if_pos hsmall, List.mem_singleton] at h
      exact h ▸ hletter column hsmall
  | case2 column hlarge ih =>
      rw [letters, if_neg hlarge, List.mem_append, List.mem_singleton] at h
      rcases h with h | rfl
      · exact ih h
      · exact hletter _ (Nat.mod_lt _ (by decide))

/-- Letters count the same in capitals. -/
theorem count_map_toUpper (name : List Char) : count (name.map Char.toUpper) = count name := by
  have hsame : SameLetters (name.map Char.toUpper) name := by
    rw [SameLetters, List.map_map]
    exact List.map_congr_left fun c _ => Char.toUpper_toUpper_eq_toUpper c
  rw [count_eq_placeValue, count_eq_placeValue, hsame.placeValue_eq]

/-- Letters that count one more than a column are its name, apart from their case. -/
theorem letters_of_count {name : List Char} {column : Nat} (hname : ∀ c ∈ name, c.isAlpha)
    (hcount : count name = column + 1) : letters column = name.map Char.toUpper := by
  have hupper : ∀ c ∈ name.map Char.toUpper, c.isUpper := by
    intro c hc
    obtain ⟨d, hd, rfl⟩ := List.mem_map.mp hc
    rw [Char.isUpper_toUpper_eq_isAlpha]
    exact hname d hd
  refine eq_of_count_eq (fun _ => isUpper_of_mem_letters) hupper ?_
  rw [count_letters, count_map_toUpper, hcount]

/-- The names of columns come in the order of the columns. -/
theorem shortlex_letters_iff {m n : Nat} :
    List.Shortlex (· < ·) (letters m) (letters n) ↔ m < n := by
  have hless : ∀ {m n}, List.Shortlex (· < ·) (letters m) (letters n) → m < n := by
    intro m n h
    have hcount := count_lt_of_shortlex (fun _ => isUpper_of_mem_letters)
      (fun _ => isUpper_of_mem_letters) h
    rw [count_letters, count_letters] at hcount
    exact Nat.lt_of_succ_lt_succ hcount
  refine ⟨hless, fun h => ?_⟩
  rcases trichotomous_of (List.Shortlex (· < ·)) (letters m) (letters n) with hlt | heq | hlt
  · exact hlt
  · have hcount := congrArg count heq
    rw [count_letters, count_letters] at hcount
    omega
  · exact absurd h (hless hlt).asymm

/-! ## Names that are refused -/

/-- Why a text is no name of a column. The letters in front of a character that is no letter matter
as far as they may be too many already. -/
def Refusal (name : List Char) : AddressError → Prop
  | .noLetters => name = []
  | .notALetter c => ∃ front rest, name = front ++ c :: rest ∧ (∀ d ∈ front, d.isAlpha) ∧
      c.isAlpha = false ∧ placeValue 26 letterValue front < indexLimit
  | .columnTooLarge text => text = String.ofList name ∧ ∃ front rest, name = front ++ rest ∧
      (∀ d ∈ front, d.isAlpha) ∧ indexLimit ≤ placeValue 26 letterValue front
  | .notAnAddress _ => False

section
variable {name front rest : List Char} (hfront : ∀ d ∈ front, d.isAlpha)
include hfront

/-- The reader stops at a character that is no letter, if it comes as far. -/
theorem ofLetters_of_notALetter {c : Char} (hc : c.isAlpha = false)
    (hcount : count front < indexLimit) :
    ofLetters (front ++ c :: rest) = .error (.notALetter c) := by
  have hread : front.foldlM (addLetter (front ++ c :: rest)) 0 = .ok (count front) :=
    (foldlM_addLetter_eq_ok (by decide)).mpr ⟨hfront, rfl, hcount⟩
  have hstop : ∀ counted, addLetter (front ++ c :: rest) counted c = .error (.notALetter c) := by
    intro counted
    rw [addLetter, if_neg (by simp [hc])]
  rw [ofLetters, if_neg (by simp), List.foldlM_append, hread]
  show Except.map _ ((c :: rest).foldlM _ (count front)) = _
  rw [List.foldlM_cons, hstop]
  rfl

/-- The reader stops at letters that count too much, whatever follows. -/
theorem ofLetters_of_tooLarge (hcount : indexLimit ≤ count front) :
    ofLetters (front ++ rest) = .error (.columnTooLarge (String.ofList (front ++ rest))) := by
  have hne : front ≠ [] := by
    rintro rfl
    exact absurd hcount (by decide)
  rw [ofLetters, if_neg (by simp [hne]), List.foldlM_append,
    foldlM_addLetter_eq_error hfront (by decide) hcount]
  rfl

end

/-- Every text is a name, or there is a reason why not. -/
theorem exists_ofLetters_or_refusal (name : List Char) :
    (∃ column, ofLetters name = .ok column) ∨
      ∃ why, ofLetters name = .error why ∧ Refusal name why := by
  -- The letters in front of the first other character decide.
  have hfront : ∀ d ∈ name.takeWhile Char.isAlpha, d.isAlpha :=
    fun d hd => List.mem_takeWhile_imp hd
  have hsplit : name.takeWhile Char.isAlpha ++ name.dropWhile Char.isAlpha = name :=
    List.takeWhile_append_dropWhile
  have hstop := List.head?_dropWhile_not Char.isAlpha name
  generalize name.takeWhile Char.isAlpha = front at hfront hsplit
  generalize name.dropWhile Char.isAlpha = rest at hsplit hstop
  subst hsplit
  by_cases hlimit : count front < indexLimit
  · cases rest with
    | nil =>
        rw [List.append_nil]
        by_cases hne : front = []
        · subst hne
          exact Or.inr ⟨.noLetters, rfl, rfl⟩
        · have hpos := count_pos hne
          exact Or.inl ⟨count front - 1, ofLetters_eq_ok.mpr ⟨hne, hfront, by omega, by omega⟩⟩
    | cons c rest =>
        have hc : c.isAlpha = false := by simpa using hstop
        exact Or.inr ⟨.notALetter c, ofLetters_of_notALetter hfront hc hlimit, front, rest, rfl,
          hfront, hc, count_eq_placeValue front ▸ hlimit⟩
  · have hlimit' : indexLimit ≤ count front := Nat.le_of_not_lt hlimit
    exact Or.inr ⟨.columnTooLarge _, ofLetters_of_tooLarge hfront hlimit', rfl, front, rest, rfl,
      hfront, count_eq_placeValue front ▸ hlimit'⟩

/-- A text is refused for the reasons there are. -/
theorem ofLetters_eq_error_iff {name : List Char} {why : AddressError} :
    ofLetters name = .error why ↔ Refusal name why := by
  constructor
  · intro h
    -- There is a reason for whatever is not read, and a text has one answer.
    rcases exists_ofLetters_or_refusal name with ⟨column, hread⟩ | ⟨why', hread, hwhy⟩
    · rw [hread] at h
      cases h
    · rw [hread] at h
      exact Except.error.inj h ▸ hwhy
  · intro h
    cases why with
    | noLetters =>
        obtain rfl : name = [] := h
        rfl
    | notALetter c =>
        obtain ⟨front, rest, rfl, hfront, hc, hlimit⟩ := h
        exact ofLetters_of_notALetter hfront hc (count_eq_placeValue front ▸ hlimit)
    | columnTooLarge text =>
        obtain ⟨rfl, front, rest, rfl, hfront, hlimit⟩ := h
        exact ofLetters_of_tooLarge hfront (count_eq_placeValue front ▸ hlimit)
    | notAnAddress text => exact h.elim

/-! ## What is read and what is written -/

/-- Names are decoded exactly. `A` to `Z` stand for one to twenty-six, and so do `a` to `z`. A text
is the name of a column if and only if it is made of letters, at least one, and the number they
stand for to base 26 is an index; the column is one less, and its name is the text in capitals.
Every other text is refused, for exactly one reason. The names of columns come in the order of the
columns: shorter ones first, and equally long ones by the alphabet. -/
theorem names_decoded :
    (∀ place < 26, letterValue (Char.ofNat ('A'.toNat + place)) = place + 1 ∧
      letterValue (Char.ofNat ('a'.toNat + place)) = place + 1) ∧
    (∀ name column, ofLetters name = .ok column ↔
      name ≠ [] ∧ (∀ c ∈ name, c.isAlpha) ∧ placeValue 26 letterValue name < indexLimit ∧
        column = placeValue 26 letterValue name - 1) ∧
    (∀ name column, ofLetters name = .ok column →
      column + 1 = placeValue 26 letterValue name ∧ letters column = name.map Char.toUpper) ∧
    (∀ name why, ofLetters name = .error why ↔ Refusal name why) ∧
    ∀ m n, m < n ↔ List.Shortlex (· < ·) (letters m) (letters n) := by
  refine ⟨fun place => letterValue_of_lt, ?_, ?_, fun name why => ofLetters_eq_error_iff,
    fun m n => shortlex_letters_iff.symm⟩
  · intro name column
    -- A count is one more than its column, so it has to be positive to have one.
    rw [ofLetters_eq_ok, count_eq_placeValue]
    constructor
    · rintro ⟨hne, hletters, hcount, hlimit⟩
      exact ⟨hne, hletters, by omega, by omega⟩
    · rintro ⟨hne, hletters, hlimit, rfl⟩
      have hpos := count_pos hne
      rw [count_eq_placeValue] at hpos
      exact ⟨hne, hletters, by omega, by omega⟩
  · intro name column h
    obtain ⟨-, hletters, hcount, -⟩ := ofLetters_eq_ok.mp h
    rw [← count_eq_placeValue]
    exact ⟨hcount.symm, letters_of_count hletters hcount⟩

/-- The last name that is read, with letters of either case; the first that is not, though a digit
follows; a digit in front of it, which is met first; and the names around the step from one letter
to two. -/
theorem names_decoded_at_edges :
    (ofLetters "gkgwbyLWRXTLPO".toList = .ok (indexLimit - 2) ∧
        letters (indexLimit - 2) = "GKGWBYLWRXTLPO".toList) ∧
      ofLetters "GKGWBYLWRXTLPP1".toList = .error (.columnTooLarge "GKGWBYLWRXTLPP1") ∧
      ofLetters "1GKGWBYLWRXTLPP".toList = .error (.notALetter '1') ∧
      List.Shortlex (· < ·) (letters 25) (letters 26) ∧ letters 25 = ['Z'] ∧
      letters 26 = ['A', 'A'] := by
  obtain ⟨-, hread, hwritten, hrefused, horder⟩ := names_decoded
  have hlast : ofLetters "gkgwbyLWRXTLPO".toList = .ok (indexLimit - 2) :=
    (hread _ _).mpr ⟨by decide, List.all_eq_true.mp rfl, by decide, by decide⟩
  refine ⟨⟨hlast, (hwritten _ _ hlast).2⟩, ?_, ?_, (horder 25 26).mp (by decide),
    by decide +kernel, by decide +kernel⟩
  · exact (hrefused _ _).mpr ⟨by decide, "GKGWBYLWRXTLPP".toList, ['1'], by decide,
      List.all_eq_true.mp rfl, by decide⟩
  · exact (hrefused _ _).mpr ⟨[], "GKGWBYLWRXTLPP".toList, by decide, by simp, by decide, by decide⟩

end FormulaTable.Column
