import FormulaTable.Proofs.Evaluation.PathIndependence
import FormulaTable.Proofs.Number.Floor

/-!
# `FormulaTable.Proofs.Evaluation.Repetition`: how long a repeated text may become

`REPT` counts with numbers of any size. `Meaning.heldRepetition` is the same function with indices
of 64 bits: the number of times and the length of the result are taken for the last index where they
are beyond it. Both give way at the same lengths (`Meaning.held_length_iff`), since the last index
is beyond the limit itself, and what is within the limit has not been changed on the way
(`Text.repeated_held`).

`Builtin.repetition_limited` says that no text and no number gets around the limit, in either of the
two.
-/

set_option autoImplicit false

namespace FormulaTable

/-! ## A text several times over -/

namespace Text

/-- A text repeated is so many copies of it, one after the other. -/
theorem repeated_eq (count : ℕ) (text : List Char) :
    repeated count text = (List.replicate count text).flatten := by
  rw [repeated]
  cases text with
  | nil => simp
  | cons c rest => rfl

/-- A text repeated is so many times as long. -/
theorem length_repeated (count : ℕ) (text : List Char) :
    (repeated count text).length = text.length * count := by
  rw [repeated_eq, List.length_flatten, List.map_replicate, List.sum_replicate, smul_eq_mul,
    Nat.mul_comm]

/-- Within the limit, a count that is held to the indices is the same count, unless the text is
empty and the count does not matter. -/
theorem repeated_held {count : ℕ} {text : List Char} (h : text.length * count ≤ repeatLimit) :
    repeated (min count (indexLimit - 1)) text = repeated count text := by
  cases text with
  | nil => rfl
  | cons c rest =>
      have hcount : count ≤ (c :: rest).length * count :=
        Nat.le_mul_of_pos_left count (Nat.succ_pos _)
      have hlimit : repeatLimit ≤ indexLimit - 1 := by decide
      rw [Nat.min_eq_left (by omega)]

end Text

namespace Meaning

open Context (eq_ok_of_toOption)

/-- The repetition of a text with indices of 64 bits: the count and the length are the last index
where they are beyond it. -/
def heldRepetition : Query Value := do
  let s ← Query.text 0
  let count := (← Query.number 1).toUInt64.toNat
  let length := (UInt64.ofNatClamp (s.length * count)).toNat
  if repeatLimit < length then .refuse .textTooLong
  else return .text (String.ofList (Text.repeated count s.toList))

/-- A length is beyond the limit if it is beyond it when the count and the length itself are held to
the indices. -/
theorem held_length_iff (length count : ℕ) :
    repeatLimit < min (length * min count (indexLimit - 1)) (indexLimit - 1)
      ↔ repeatLimit < length * count := by
  have hlimit : repeatLimit < indexLimit - 1 := by decide
  rcases Nat.eq_zero_or_pos length with rfl | hpos
  · simp
  rcases Nat.le_total count (indexLimit - 1) with hle | hge
  · rw [Nat.min_eq_left hle, lt_min_iff]
    exact and_iff_left hlimit
  · -- One character repeated as often as that is too long already.
    have hheld : indexLimit - 1 ≤ length * (indexLimit - 1) := Nat.le_mul_of_pos_left _ hpos
    have hexact : count ≤ length * count := Nat.le_mul_of_pos_left _ hpos
    rw [Nat.min_eq_right hge, Nat.min_eq_right hheld]
    omega

section
variable {arguments : List Reading} {s : String} {x : Float}
  (htext : (Query.text 0).run arguments = .ok s) (hnumber : (Query.number 1).run arguments = .ok x)
include htext hnumber

/-- What `REPT` comes to, once its arguments are known. -/
theorem run_repetition :
    repetition.run arguments =
      if repeatLimit < s.length * countOf x then .error (.argument .textTooLong)
      else .ok (.text (String.ofList (Text.repeated (countOf x) s.toList))) := by
  rw [repetition, Query.run_bind_of_ok htext, Query.run_bind_of_ok hnumber]
  show Query.run arguments (if _ then _ else _) = _
  split <;> rfl

/-- With indices of 64 bits the outcome is the same. -/
theorem run_heldRepetition (hfinite : x.isFinite) :
    heldRepetition.run arguments = repetition.run arguments := by
  have hlimit := held_length_iff s.length (countOf x)
  rw [run_repetition htext hnumber, heldRepetition, Query.run_bind_of_ok htext,
    Query.run_bind_of_ok hnumber]
  show Query.run arguments (if _ then _ else _) = _
  simp only [toNat_ofNatClamp, toNat_toUInt64 hfinite, hlimit]
  split
  · rfl
  · next hshort =>
      rw [Text.repeated_held (Nat.le_of_not_lt hshort)]
      rfl

end

/-- No text and no number gets around the limit of `REPT`. It fails with a wrong argument if and
only if the repeated text would be longer than the limit, where the text is repeated as often as the
floor of the number says, however large that is, and never for a negative number. Otherwise it gives
the repeated text, and that is exactly as long; for the empty text it is empty. The same comes out
if the number and the length are held to indices of 64 bits. -/
theorem repetition_limited (ambient : Ambient) {arguments : List Reading} {s : String} {x : Float}
    (hlength : arguments.length = 2) (htext : (Query.text 0).run arguments = .ok s)
    (hnumber : (Query.number 1).run arguments = .ok x) (hfinite : x.isFinite) :
    let times := ⌊max (exactValue x) 0⌋₊
    let outcome := Builtin.rept.call ambient arguments
    ((∃ why, outcome = .error (.argument why)) ↔ repeatLimit < s.length * times) ∧
      (s.length * times ≤ repeatLimit → ∃ repeated : String, outcome = .ok (.text repeated) ∧
        repeated.toList = (List.replicate times s.toList).flatten ∧
        repeated.length = s.length * times) ∧
      (s = "" → outcome = .ok (.text "")) ∧
      heldRepetition.run arguments = outcome := by
  intro times outcome
  have houtcome : outcome = repetition.run arguments := by
    show Builtin.rept.call ambient arguments = _
    rw [Builtin.call, hlength]
    rfl
  -- What the dialogue does, with the number of times as the floor of a rational number.
  have hcases := run_repetition htext hnumber
  rw [← houtcome, countOf_eq_floor hfinite] at hcases
  -- The two sides of the limit, each with all that is known of its outcome.
  have hrefused : repeatLimit < s.length * times → outcome = .error (.argument .textTooLong) :=
    fun hlong => hcases.trans (if_pos hlong)
  have hgiven : s.length * times ≤ repeatLimit →
      outcome = .ok (.text (String.ofList (Text.repeated times s.toList))) :=
    fun hshort => hcases.trans (if_neg (Nat.not_lt.mpr hshort))
  refine ⟨⟨?_, fun hlong => ⟨_, hrefused hlong⟩⟩, fun hshort => ⟨_, hgiven hshort, ?_, ?_⟩, ?_,
    (run_heldRepetition htext hnumber hfinite).trans houtcome.symm⟩
  · rintro ⟨why, hwhy⟩
    by_contra hshort
    rw [hgiven (Nat.le_of_not_lt hshort)] at hwhy
    cases hwhy
  · rw [String.toList_ofList, Text.repeated_eq]
  · rw [String.length_ofList, Text.length_repeated, String.length_toList]
  · rintro rfl
    exact hgiven (by simp)

/-- Seven characters 4681 times are as long as is allowed. For two characters 2⁶³ times it is not
enough that 64 bits hold the number: twice as much is beyond them, and is refused. The empty text
may be repeated as often. -/
theorem repetition_limited_in_row :
    let ctx :=
      (Grid.ofRows [["1234567", "4681.9", "ab", "9223372036854775808", ""]]).context .morning
    (∃ repeated : String, ctx.call .rept ["A1", "B1"] = .ok (.text repeated) ∧
        repeated.length = repeatLimit) ∧
      (∃ why, ctx.call .rept ["C1", "D1"] = .error (.argument why)) ∧
      ctx.call .rept ["E1", "D1"] = .ok (.text "") := by
  intro ctx
  have hmany_finite : (4681.9 : Float).isFinite := by decide +kernel
  have hhuge_finite : (9223372036854775808 : Float).isFinite := by decide +kernel
  have hmany : ⌊max (exactValue 4681.9) 0⌋₊ = 4681 :=
    (countOf_eq_floor hmany_finite).symm.trans (by decide +kernel)
  have hhuge : ⌊max (exactValue 9223372036854775808) 0⌋₊ = 2 ^ 63 :=
    (countOf_eq_floor hhuge_finite).symm.trans (by decide +kernel)
  have hdigits : ctx.ask ["A1", "B1"] (.text 0) = .ok "1234567" :=
    eq_ok_of_toOption (by decide +kernel)
  have htimes : ctx.ask ["A1", "B1"] (.number 1) = .ok 4681.9 :=
    eq_ok_of_toOption (by decide +kernel)
  have hpair : ctx.ask ["C1", "D1"] (.text 0) = .ok "ab" := eq_ok_of_toOption (by decide +kernel)
  have htimes' : ctx.ask ["C1", "D1"] (.number 1) = .ok 9223372036854775808 :=
    eq_ok_of_toOption (by decide +kernel)
  have hnothing : ctx.ask ["E1", "D1"] (.text 0) = .ok "" := eq_ok_of_toOption (by decide +kernel)
  have htimes'' : ctx.ask ["E1", "D1"] (.number 1) = .ok 9223372036854775808 :=
    eq_ok_of_toOption (by decide +kernel)
  -- 7 characters 4681 times are exactly the limit; 2 characters 2^63 times do not fit a word.
  obtain ⟨-, hfits, -, -⟩ := repetition_limited ctx.ambient rfl hdigits htimes hmany_finite
  obtain ⟨hrefused, -, -, -⟩ := repetition_limited ctx.ambient rfl hpair htimes' hhuge_finite
  obtain ⟨-, -, hempty, -⟩ := repetition_limited ctx.ambient rfl hnothing htimes'' hhuge_finite
  rw [hmany] at hfits
  rw [hhuge] at hrefused
  obtain ⟨repeated, houtcome, -, hlength⟩ := hfits (by decide)
  exact ⟨⟨repeated, houtcome, hlength.trans (by decide)⟩, hrefused.mpr (by decide), hempty rfl⟩

end Meaning
end FormulaTable
