import FormulaTable.Proofs.Evaluation.Finite
import FormulaTable.Proofs.Evaluation.PathIndependence
import FormulaTable.Proofs.Number.Floor
import FormulaTable.Proofs.Text.Slice

/-!
# `FormulaTable.Proofs.Evaluation.Part`: parts of a text that numbers ask for

`MID` takes a part of a text, from a position that is counted from one. Position and length may be
any numbers. `Meaning.heldPart` is the same function with indices of 64 bits: both numbers are the
last index where they are beyond it, and the position is lowered by one as an index. A position that
is not refused is one at least, so the index does not wrap around (`Meaning.one_le_toUInt64`), and
no text is so long that the last index lies inside it (`Text.middle_held`).

`Context.parts_make_up_text` joins this with what the parts of a text are.
-/

set_option autoImplicit false

namespace FormulaTable

/-- No text is this long: a text takes up less than half of the indices. -/
def textLimit : ℕ := 0x8000000000000000

/-- In a text, a position and a length that are held to the indices give the same part. -/
theorem Text.middle_held {text : List Char} (h : text.length < textLimit) (position count : ℕ) :
    middle (min position (indexLimit - 1) - 1) (min count (indexLimit - 1)) text
      = middle (position - 1) count text := by
  have hlimit : textLimit < indexLimit - 1 := by decide
  have hstart : text.drop (min position (indexLimit - 1) - 1) = text.drop (position - 1) := by
    rcases Nat.le_total position (indexLimit - 1) with hle | hge
    · rw [Nat.min_eq_left hle]
    · -- The last index is beyond the end of the text, and so is the position.
      rw [Nat.min_eq_right hge, List.drop_eq_nil_of_le (by omega),
        List.drop_eq_nil_of_le (by omega)]
  rw [middle, middle, hstart]
  rcases Nat.le_total count (indexLimit - 1) with hle | hge
  · rw [Nat.min_eq_left hle]
  · have hshort : (text.drop (position - 1)).length < indexLimit - 1 := by
      rw [List.length_drop]
      omega
    rw [Nat.min_eq_right hge, List.take_of_length_le hshort.le, List.take_of_length_le (by omega)]

namespace Meaning

/-- A part of a text with indices of 64 bits: the position and the length are the last index where
they are beyond it, and one is taken off the position as an index. -/
def heldPart : Query Value := do
  let s ← Query.text 0
  let position ← Query.number 1
  let count ← Query.number 2
  if (Binary.ofFloat position).floor < 1 then .refuse (.startBeforeText position.floor)
  else
    return .text (String.ofList
      (Text.middle (position.toUInt64 - 1).toNat count.toUInt64.toNat s.toList))

/-- A position that is not refused is an index that one can be taken off. -/
theorem one_le_toUInt64 {x : Float} (hfinite : x.isFinite) (h : 1 ≤ (Binary.ofFloat x).floor) :
    1 ≤ x.toUInt64 := by
  rw [UInt64.le_iff_toNat_le, toNat_toUInt64 hfinite, countOf, indexLimit]
  have hone : UInt64.toNat 1 = 1 := rfl
  omega

section
variable {arguments : List Reading} {s : String} {p n : Float}
  (htext : (Query.text 0).run arguments = .ok s)
  (hposition : (Query.number 1).run arguments = .ok p)
  (hcount : (Query.number 2).run arguments = .ok n)
include htext hposition hcount

/-- What `MID` comes to, once its arguments are known. -/
theorem run_partOf :
    partOf.run arguments = if (Binary.ofFloat p).floor < 1 then
        .error (.argument (.startBeforeText p.floor))
      else .ok (.text (String.ofList
        (Text.middle ((Binary.ofFloat p).floor.toNat - 1) (countOf n) s.toList))) := by
  rw [partOf, Query.run_bind_of_ok htext, Query.run_bind_of_ok hposition,
    Query.run_bind_of_ok hcount]
  show Query.run arguments (if _ then _ else _) = _
  split <;> rfl

/-- With indices of 64 bits the outcome is the same. -/
theorem run_heldPart (hp : p.isFinite) (hn : n.isFinite) (hlength : s.length < textLimit) :
    heldPart.run arguments = partOf.run arguments := by
  rw [run_partOf htext hposition hcount, heldPart, Query.run_bind_of_ok htext,
    Query.run_bind_of_ok hposition, Query.run_bind_of_ok hcount]
  show Query.run arguments (if _ then _ else _) = _
  split
  · rfl
  · next hstart =>
      have hindex := one_le_toUInt64 hp (Int.not_lt.mp hstart)
      have hsub : (p.toUInt64 - 1).toNat = min (countOf p) (indexLimit - 1) - 1 := by
        rw [UInt64.toNat_sub_of_le _ _ hindex, toNat_toUInt64 hp]
        rfl
      have hchars : s.toList.length < textLimit := by rwa [String.length_toList]
      rw [hsub, toNat_toUInt64 hn, Text.middle_held hchars]
      rfl

end

end Meaning

namespace Context

open Meaning (partOf heldPart)

/-- The parts of a text make it up. The first `i` characters, the next `n` and the remaining ones
are the text again, and each part has the length that is asked for. Where more is asked for than
there is, each part is what there is of it. So `MID` fails with a wrong argument if and only if the
floor of the position is below one. Otherwise it gives the characters from this position on, counted
from one, as many as the floor of the length says or as many as there are. As an index of 64 bits
the position is at least one then, and the outcome with such indices is the same. -/
theorem parts_make_up_text :
    (∀ (text : List Char) (i n : ℕ), i + n ≤ text.length →
      Text.left i text ++ Text.middle i n text ++ Text.right (text.length - i - n) text = text ∧
        (Text.left i text).length = i ∧ (Text.middle i n text).length = n ∧
        (Text.right (text.length - i - n) text).length = text.length - i - n) ∧
    (∀ (text : List Char) (count : ℕ),
      (Text.left count text <+: text ∧ (Text.left count text).length = min count text.length) ∧
        (Text.right count text <:+ text ∧ (Text.right count text).length = min count text.length) ∧
        ∀ skipped k, (Text.middle skipped count text)[k]?
          = if k < count then text[skipped + k]? else none) ∧
    ∀ (ctx : Context) (arguments : List String) (s : String) (p n : Float),
      ctx.ask arguments (.text 0) = .ok s → ctx.ask arguments (.number 1) = .ok p →
      ctx.ask arguments (.number 2) = .ok n →
      let start := ⌊exactValue p⌋
      let count := ⌊max (exactValue n) 0⌋₊
      let outcome := ctx.ask arguments partOf
      ((∃ why, outcome = .error (.argument why)) ↔ start < 1) ∧
        (1 ≤ start → 1 ≤ p.toUInt64 ∧ ∃ part : String, outcome = .ok (.text part) ∧
          part.length = min count (s.length - (start.toNat - 1)) ∧
          ∀ k, part.toList[k]? = if k < count then s.toList[start.toNat - 1 + k]? else none) ∧
        (s.length < textLimit → ctx.ask arguments heldPart = outcome) ∧
        (arguments.length = 3 → ctx.call .mid arguments = outcome) := by
  refine ⟨?_, ?_, ?_⟩
  · intro text i n h
    refine ⟨Text.left_append_middle_append_right text h, ?_, ?_, ?_⟩
    · rw [Text.length_left]
      omega
    · rw [Text.length_middle]
      omega
    · rw [Text.length_right]
      omega
  · intro text count
    exact ⟨⟨List.take_prefix _ _, Text.length_left text count⟩,
      ⟨List.drop_suffix _ _, Text.length_right text count⟩, fun skipped k =>
        Text.getElem?_middle text skipped count k⟩
  · intro ctx arguments s p n htext hposition hcount start count outcome
    have hp : p.isFinite := isFinite_of_ask_number hposition
    have hn : n.isFinite := isFinite_of_ask_number hcount
    -- The position is rounded down by the code on the fields of the double, by the statement as a
    -- rational number.
    have hstart : (Binary.ofFloat p).floor = start := by
      rw [Binary.floor_eq, ← exactValue_eq hp]
    have hcases := Meaning.run_partOf htext hposition hcount
    rw [hstart, countOf_eq_floor hn] at hcases
    -- The two cases of the position, each with all that is known of its outcome.
    have hrefused : start < 1 → outcome = .error (.argument (.startBeforeText p.floor)) :=
      fun hbefore => hcases.trans (if_pos hbefore)
    have hgiven : 1 ≤ start → outcome
        = .ok (.text (String.ofList (Text.middle (start.toNat - 1) count s.toList))) :=
      fun hinside => hcases.trans (if_neg (Int.not_lt.mpr hinside))
    refine ⟨⟨?_, fun hbefore => ⟨_, hrefused hbefore⟩⟩, fun hinside => ?_,
      Meaning.run_heldPart htext hposition hcount hp hn, fun hlength => ?_⟩
    · rintro ⟨why, hwhy⟩
      by_contra hinside
      rw [hgiven (Int.not_lt.mp hinside)] at hwhy
      cases hwhy
    · refine ⟨Meaning.one_le_toUInt64 hp (hstart ▸ hinside), _, hgiven hinside, ?_, fun k => ?_⟩
      · rw [String.length_ofList, Text.length_middle, String.length_toList]
      · rw [String.toList_ofList, Text.getElem?_middle]
    · have hbound : Builtin.mid.brokenBound? arguments.length = none := by
        rw [hlength]
        rfl
      rw [call_eq_ask hbound]
      rfl

/-- Three characters from the second on, where the numbers are 2.9 and 3.5. No length is too large,
and a position that is too large leaves nothing. A position of one half is one below the text. -/
theorem parts_make_up_text_in_row :
    let ctx := (Grid.ofRows [["héllo", "2.9", "3.5", "0.5", "1e300"]]).context .morning
    Text.left 1 "héllo".toList ++ Text.middle 1 3 "héllo".toList ++ Text.right 1 "héllo".toList
        = "héllo".toList ∧
      (∃ part : String, ctx.call .mid ["A1", "B1", "C1"] = .ok (.text part) ∧ part.length = 3 ∧
        part.toList[0]? = some 'é') ∧
      (∃ why, ctx.call .mid ["A1", "D1", "C1"] = .error (.argument why)) ∧
      ∃ part : String, ctx.call .mid ["A1", "E1", "E1"] = .ok (.text part) ∧ part.length = 0 := by
  intro ctx
  obtain ⟨hparts, -, hmid⟩ := parts_make_up_text
  have hsecond : ctx.ask ["A1", "B1", "C1"] (.number 1) = .ok 2.9 :=
    eq_ok_of_toOption (by decide +kernel)
  have hthree : ctx.ask ["A1", "B1", "C1"] (.number 2) = .ok 3.5 :=
    eq_ok_of_toOption (by decide +kernel)
  have hhalf : ctx.ask ["A1", "D1", "C1"] (.number 1) = .ok 0.5 :=
    eq_ok_of_toOption (by decide +kernel)
  have hhuge : ctx.ask ["A1", "E1", "E1"] (.number 1) = .ok 1e300 :=
    eq_ok_of_toOption (by decide +kernel)
  -- `decide` cannot open a floor of rationals, but it can the quotient the code takes.
  have hfloor_second : ⌊exactValue 2.9⌋ = 2 := by
    rw [exactValue_eq (isFinite_of_ask_number hsecond), ← Binary.floor_eq]
    decide +kernel
  have hfloor_half : ⌊exactValue 0.5⌋ = 0 := by
    rw [exactValue_eq (isFinite_of_ask_number hhalf), ← Binary.floor_eq]
    decide +kernel
  have hcount : ⌊max (exactValue 3.5) 0⌋₊ = 3 :=
    (countOf_eq_floor (isFinite_of_ask_number hthree)).symm.trans (by decide +kernel)
  -- A position of 10^300 lies behind every text; that it is behind this one is all that is needed.
  have hfar : 6 ≤ ⌊exactValue 1e300⌋ := by
    rw [exactValue_eq (isFinite_of_ask_number hhuge), ← Binary.floor_eq]
    decide +kernel
  obtain ⟨-, hinside, -, hcall⟩ := hmid ctx ["A1", "B1", "C1"] "héllo" 2.9 3.5
    (eq_ok_of_toOption (by decide +kernel)) hsecond hthree
  obtain ⟨hrefused, -, -, hcall'⟩ := hmid ctx ["A1", "D1", "C1"] "héllo" 0.5 3.5
    (eq_ok_of_toOption (by decide +kernel)) hhalf (eq_ok_of_toOption (by decide +kernel))
  obtain ⟨-, hbeyond, -, hcall''⟩ := hmid ctx ["A1", "E1", "E1"] "héllo" 1e300 1e300
    (eq_ok_of_toOption (by decide +kernel)) hhuge (eq_ok_of_toOption (by decide +kernel))
  rw [hfloor_second, hcount] at hinside
  rw [hfloor_half] at hrefused
  refine ⟨(hparts "héllo".toList 1 3 (by decide)).1, ?_, ?_, ?_⟩
  · obtain ⟨-, part, hpart, hlength, hchars⟩ := hinside (by decide)
    exact ⟨part, (hcall rfl).trans hpart, hlength.trans (by decide), (hchars 0).trans (by decide)⟩
  · rw [hcall' rfl]
    exact hrefused.mpr (by decide)
  · obtain ⟨-, part, hpart, hlength, -⟩ := hbeyond (by omega)
    have hlength_s : ("héllo" : String).length = 5 := by decide
    refine ⟨part, (hcall'' rfl).trans hpart, hlength.trans ?_⟩
    rw [hlength_s]
    omega

end Context
end FormulaTable
