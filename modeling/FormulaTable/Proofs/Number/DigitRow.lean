import FormulaTable.Number.Display
import FormulaTable.Proofs.Address.Grammar
import Mathlib.Data.Nat.Digits.Lemmas

/-!
# `FormulaTable.Proofs.Number.DigitRow`: rows of decimal digits and their numbers

A row of digits stands for a number (`placeValue`), and zeros in front of it make no difference. So
a number has many rows; but of one length it has at most one (`eq_of_placeValue_eq_of_length`), and
at most one that begins with no zero it could do without (`eq_of_placeValue_eq`). The digits that a
number is written with are such a row (`noSpareZero_toDigits`).
-/

set_option autoImplicit false

namespace FormulaTable

/-! ## Digits -/

/-- A digit stands for less than ten. -/
theorem digitValue_lt {c : Char} (h : c.isDigit) : digitValue c < 10 := by
  have hbounds : 48 ≤ c.toNat ∧ c.toNat ≤ 57 := Char.isDigit_iff_toNat.mp h
  have hzero : '0'.toNat = 48 := rfl
  rw [digitValue]
  omega

/-- A digit is the one that is written for what it counts. -/
theorem digitChar_digitValue {c : Char} (h : c.isDigit) : Nat.digitChar (digitValue c) = c := by
  have hlow : 48 ≤ c.toNat := (Char.isDigit_iff_toNat.mp h).1
  have hzero : '0'.toNat = 48 := rfl
  apply Char.toNat_inj.mp
  rw [Nat.toNat_digitChar_of_lt_ten (digitValue_lt h), digitValue]
  omega

/-- The digit for a number below ten stands for it. -/
theorem digitValue_digitChar {n : Nat} (h : n < 10) : digitValue (Nat.digitChar n) = n := by
  have hzero : '0'.toNat = 48 := rfl
  rw [digitValue, Nat.toNat_digitChar_of_lt_ten h]
  omega

/-- The digits of a number are digits. -/
theorem isDigit_of_mem_toDigits (n : Nat) : ∀ c ∈ Nat.toDigits 10 n, c.isDigit :=
  fun _ hc => Nat.isDigit_of_mem_toDigits (by decide) (by decide) hc

/-- Zeros are digits. -/
theorem isDigit_of_mem_zeros (k : Nat) : ∀ c ∈ List.replicate k '0', c.isDigit := by
  intro c hc
  rw [List.eq_of_mem_replicate hc]
  rfl

/-! ## The number of a row -/

/-- What stands in front of a row counts by the length of the row. -/
theorem placeValue_append (base : Nat) (value : Char → Nat) (front back : List Char) :
    placeValue base value (front ++ back)
      = placeValue base value front * base ^ back.length + placeValue base value back := by
  simp only [placeValue, List.reverse_append, List.map_append, Nat.ofDigits_append, List.length_map,
    List.length_reverse]
  rw [Nat.add_comm, Nat.mul_comm]

/-- Zeros stand for nothing. -/
theorem placeValue_zeros (k : Nat) : placeValue 10 digitValue (List.replicate k '0') = 0 := by
  have hzero : digitValue '0' = 0 := rfl
  rw [placeValue, List.reverse_replicate, List.map_replicate, hzero, Nat.ofDigits_replicate_zero]

/-- The row of digits that a number is written with stands for it. -/
theorem placeValue_toDigits (n : Nat) : placeValue 10 digitValue (Nat.toDigits 10 n) = n := by
  rw [← decimalValue_eq_placeValue, decimalValue_eq, Nat.ofDigitChars_ten_toDigits]

/-- A row that begins with a zero is nothing but this zero. -/
def NoSpareZero (row : List Char) : Prop :=
  row.head? = some '0' → row = ['0']

/-- A number is written without a zero in front. -/
theorem noSpareZero_toDigits (n : Nat) : NoSpareZero (Nat.toDigits 10 n) := by
  have hhead : n ≠ 0 → (Nat.toDigits 10 n).head? ≠ some '0' := by
    -- Along the digits: the first digit of a longer row is the first one of its tenth part.
    induction n using Nat.strong_induction_on with
    | _ n ih =>
      intro hn
      by_cases hsmall : n < 10
      · rw [Nat.toDigits_of_lt_base hsmall, List.head?_cons, ne_eq, Option.some.injEq,
          Nat.digitChar_eq_zero]
        exact hn
      · rw [Nat.toDigits_of_base_le (by decide) (Nat.not_lt.mp hsmall),
          List.head?_append_of_ne_nil _ Nat.toDigits_ne_nil]
        exact ih (n / 10) (by omega) (by omega)
  intro hzero
  by_cases hn : n = 0
  · rw [hn, Nat.toDigits_zero]
  · exact absurd hzero (hhead hn)

section
variable {row row' : List Char} (hdigits : ∀ c ∈ row, c.isDigit)
include hdigits

/-- The digits of a row stand for numbers below ten. -/
theorem digitValue_lt_of_mem : ∀ n ∈ row.reverse.map digitValue, n < 10 := by
  intro n hn
  obtain ⟨c, hc, rfl⟩ := List.mem_map.mp hn
  exact digitValue_lt (hdigits c (List.mem_reverse.mp hc))

/-- A row of digits stands for less than the power of ten of its length. -/
theorem placeValue_lt : placeValue 10 digitValue row < 10 ^ row.length := by
  have hlt := Nat.ofDigits_lt_base_pow_length (by decide : 1 < 10) (digitValue_lt_of_mem hdigits)
  rwa [List.length_map, List.length_reverse] at hlt

/-- A row is found again from what its digits count. -/
theorem map_digitChar : ((row.reverse.map digitValue).map Nat.digitChar).reverse = row := by
  have hsame : ∀ c ∈ row.reverse, (Nat.digitChar ∘ digitValue) c = id c :=
    fun c hc => digitChar_digitValue (hdigits c (List.mem_reverse.mp hc))
  rw [List.map_map, List.map_congr_left hsame, List.map_id, List.reverse_reverse]

/-- A row without a zero in front is what `Nat.digits` gives, but for the zero. -/
theorem digits_placeValue (hspare : NoSpareZero row) (hne : row ≠ ['0']) :
    Nat.digits 10 (placeValue 10 digitValue row) = row.reverse.map digitValue := by
  apply Nat.digits_ofDigits 10 (by decide) _ (digitValue_lt_of_mem hdigits)
  intro hnil
  obtain ⟨c, rest, rfl⟩ : ∃ c rest, row = c :: rest := by
    apply List.exists_cons_of_ne_nil
    rintro rfl
    exact hnil rfl
  have hlast : ((c :: rest).reverse.map digitValue).getLast hnil = digitValue c := by simp
  rw [hlast]
  intro hzero
  have hc : c = '0' := by
    rw [← digitChar_digitValue (hdigits c List.mem_cons_self), hzero]
    rfl
  exact hne (hspare (by rw [hc, List.head?_cons]))

variable (hdigits' : ∀ c ∈ row', c.isDigit)
  (h : placeValue 10 digitValue row = placeValue 10 digitValue row')
include hdigits' h

/-- Of one length there is one row for a number. -/
theorem eq_of_placeValue_eq_of_length (hlength : row.length = row'.length) : row = row' := by
  have hlength' : (row.reverse.map digitValue).length = (row'.reverse.map digitValue).length := by
    simpa using hlength
  have hmap := Nat.ofDigits_inj_of_len_eq (by decide) hlength'
    (digitValue_lt_of_mem hdigits) (digitValue_lt_of_mem hdigits') h
  rw [← map_digitChar hdigits, hmap, map_digitChar hdigits']

/-- Without a zero in front there is one row for a number. -/
theorem eq_of_placeValue_eq (hrow : row ≠ [] ∧ NoSpareZero row)
    (hrow' : row' ≠ [] ∧ NoSpareZero row') :
    row = row' := by
  -- No other row stands for zero than the one digit.
  have hnonzero : ∀ {r : List Char}, (∀ c ∈ r, c.isDigit) → r ≠ [] → NoSpareZero r → r ≠ ['0'] →
      placeValue 10 digitValue r ≠ 0 := by
    intro r hr hnil hspare hne hzero
    have hempty := digits_placeValue hr hspare hne
    rw [hzero, Nat.digits_zero, eq_comm, List.map_eq_nil_iff, List.reverse_eq_nil_iff] at hempty
    exact hnil hempty
  have hsingle : placeValue 10 digitValue ['0'] = 0 := rfl
  by_cases hzero : row = ['0']
  · by_contra hne
    rw [hzero, hsingle] at h
    exact hnonzero hdigits' hrow'.1 hrow'.2 (fun hzero' => hne (hzero.trans hzero'.symm)) h.symm
  · have hzero' : row' ≠ ['0'] := by
      rintro rfl
      exact hnonzero hdigits hrow.1 hrow.2 hzero (h.trans hsingle)
    have hmap : row.reverse.map digitValue = row'.reverse.map digitValue := by
      rw [← digits_placeValue hdigits hrow.2 hzero, h, digits_placeValue hdigits' hrow'.2 hzero']
    rw [← map_digitChar hdigits, hmap, map_digitChar hdigits']

end

/-! ## Four digits -/

/-- Four digits are four. -/
theorem length_fourDigits (n : Nat) : (fourDigits n).length = 4 :=
  rfl

/-- Four digits are digits. -/
theorem isDigit_of_mem_fourDigits (n : Nat) : ∀ c ∈ fourDigits n, c.isDigit := by
  simp only [fourDigits, List.mem_map, forall_exists_index, and_imp, forall_apply_eq_imp_iff₂,
    Nat.isDigit_digitChar, decide_eq_true_eq]
  simp only [List.forall_mem_cons, List.not_mem_nil, false_imp_iff, implies_true, and_true]
  omega

/-- Four digits are enough below ten thousand. -/
theorem placeValue_fourDigits {n : Nat} (h : n < 10000) :
    placeValue 10 digitValue (fourDigits n) = n := by
  have hdigit : ∀ k, digitValue (Nat.digitChar (k % 10)) = k % 10 :=
    fun k => digitValue_digitChar (Nat.mod_lt _ (by decide))
  simp only [placeValue_eq_foldl, fourDigits, List.map_cons, List.map_nil, List.foldl_cons,
    List.foldl_nil, hdigit]
  omega

end FormulaTable
