import FormulaTable.Proofs.Evaluation.CellReading
import FormulaTable.Proofs.Evaluation.Finite
import FormulaTable.Proofs.Number.Readable

/-!
# `FormulaTable.Proofs.Evaluation.Kinds`: blanks, numbers and texts

`ISBLANK`, `ISNUMBER` and `ISTEXT` sort what an argument shows: of every text exactly one of them is
true. `COUNT` does not look at what a cell shows but at its value. `Context.kinds_agree` says that
it takes the same cells for numbers as `ISNUMBER`, except that a truth value counts and shows no
number. Each of these calls evaluates its argument anew, so what they ask for has to be undrawn
(`Context.kinds_differ_if_drawn`).

The text of a value is a number if the value stands for one: `Value.spellsNumber_display`. For a
text both are the same question, and no sentinel looks like a number; what is left is that every
finite number is shown as one (`parseNumber_displayNumber_isFinite`).
-/

set_option autoImplicit false

namespace FormulaTable

open Meaning

/-! ## The kind of a text -/

namespace Builtin

/-- The functions that tell what an argument shows. -/
def kinds : List Builtin :=
  [.isBlank, .isNumber, .isText]

/-- The one among them that is true of a text. -/
def kindOf (s : String) : Builtin :=
  if s.isEmpty then .isBlank else if spellsNumber s then .isNumber else .isText

/-- Of every text one of the three is true. -/
theorem kindOf_mem (s : String) : kindOf s ∈ kinds := by
  rw [kindOf]
  split
  · decide
  · split <;> decide

/-- The three tests exclude each other, for an empty text spells no number. -/
theorem tests_eq (s : String) :
    s.isEmpty = (.isBlank == kindOf s) ∧ spellsNumber s = (.isNumber == kindOf s) ∧
      isOtherText s = (.isText == kindOf s) := by
  have hempty : s.isEmpty → spellsNumber s = false := by
    intro hs
    rw [String.isEmpty_iff.mp hs]
    decide
  rw [kindOf, isOtherText]
  cases hs : s.isEmpty with
  | true =>
      rw [hempty hs]
      decide
  | false => cases spellsNumber s <;> decide

/-- The functions ask one question. -/
theorem query_of_mem_kinds {f : Builtin} (hf : f ∈ kinds) (ambient : Ambient) (count : ℕ) :
    f.query ambient count = decideText fun s => f == kindOf s := by
  simp only [kinds, List.mem_cons, List.not_mem_nil, or_false] at hf
  rcases hf with rfl | rfl | rfl
  · exact congrArg decideText (funext fun s => (tests_eq s).1)
  · exact congrArg decideText (funext fun s => (tests_eq s).2.1)
  · exact congrArg decideText (funext fun s => (tests_eq s).2.2)

end Builtin

namespace Context

/-- A kind is asked of the text of its argument. -/
theorem call_kind {f : Builtin} (hf : f ∈ Builtin.kinds) (ctx : Context) (argument : String) :
    ctx.call f [argument]
      = (fun s => .boolean (f == Builtin.kindOf s)) <$> ctx.ask [argument] (.text 0) := by
  have hbound : f.brokenBound? 1 = none := by
    simp only [Builtin.kinds, List.mem_cons, List.not_mem_nil, or_false] at hf
    rcases hf with rfl | rfl | rfl <;> rfl
  rw [call_eq_ask hbound, Builtin.query_of_mem_kinds hf]
  show gather _ _ >>= _ = _ <$> (gather _ _ >>= _)
  cases gather (fun r => r.texts ()) ((Source.only 0).pick (ctx.readings [argument])) <;> rfl

end Context

/-! ## The text of a value -/

/-- What is shown of a value that is no truth value spells a number if and only if the value stands
for one. -/
theorem Value.spellsNumber_display {v : Value} (hfinite : v.IsFinite)
    (hboolean : ∀ b, v ≠ .boolean b) : spellsNumber v.display = v.number?.isSome := by
  cases v with
  | number n =>
      obtain ⟨y, hy, -⟩ := parseNumber_displayNumber_isFinite (hfinite n rfl)
      show (parseNumber (displayNumber n).toList).isSome = true
      rw [hy]
      rfl
  | text s => rfl
  | boolean b => exact absurd rfl (hboolean b)
  | sentinel s => cases s <;> decide +kernel

namespace Context

section
variable {ctx : Context} {c : CellRef} {value : Option Value} (hpath : c ∉ ctx.path)
  (hvalue : ctx.surroundings.cellValue? c = .ok value)
include hvalue

include hpath in
/-- A cell that is not on the path shows its value. -/
theorem cellTexts_of_cellValue? :
    ctx.surroundings.cellTexts c = .ok [(value.map Value.display).getD ""] := by
  -- Outside the grid there is no value and no text; inside, a formula cell is entered and any other
  -- cell shows what was typed.
  cases hraw : ctx.grid.text? c with
  | none =>
      rw [Surroundings.cellValue?_outside hraw] at hvalue
      obtain rfl := Except.ok.inj hvalue
      exact Surroundings.cellTexts_outside hraw
  | some raw =>
      have htexts : ctx.surroundings.cellTexts c = (fun v => [v.display]) <$> ctx.enter c :=
        Surroundings.cellTexts_inside hraw
      rw [Surroundings.cellValue?_inside hraw] at hvalue
      split at hvalue
      · obtain ⟨v, henter, rfl⟩ := exists_of_map_ok hvalue
        have henter' : ctx.enter c = .ok v := henter
        rw [htexts, henter']
        rfl
      · next hformula =>
          have hliteral : ¬ ctx.grid.holdsFormula c := by
            rw [Grid.holdsFormula_eq, hraw]
            exact hformula
          obtain rfl := Except.ok.inj hvalue
          rw [htexts, enter_literal hpath hliteral, hraw]
          rfl

variable (hdrawn : ctx.Undrawn fun ctx => ctx.surroundings.cellValue? c) (haddress : c.HasAddress)
  (draws : Draws)
include hdrawn haddress

/-- A cell is counted if it has a number. -/
theorem call_count_toText : (ctx.withDraws draws).call .count [c.toText]
    = .ok (.number (truthNumber (value.bind Value.number?).isSome)) := by
  have hthere : ((ctx.withDraws draws).toward .numbers).surroundings.cellValue? c = .ok value :=
    (hdrawn.toward_eq draws .numbers).trans hvalue
  have hnumbers : (ctx.withDraws draws).ask [c.toText] .allNumbers
      = .ok (value.bind Value.number?).toList := by
    rw [ask_allNumbers_singleton, argumentNumbers_toText haddress.1 haddress.2,
      Surroundings.cellNumbers, hthere]
    rfl
  rw [call_eq_ask rfl]
  show (overNumbers fun xs => Float.ofNat xs.length).run
    ((ctx.withDraws draws).readings [c.toText]) = _
  rw [run_overNumbers, hnumbers]
  cases value.bind Value.number? <;> rfl

include hpath in
/-- A cell that is no truth value shows a number if it has one. -/
theorem call_isNumber_toText (hboolean : ∀ b, value ≠ some (.boolean b)) :
    (ctx.withDraws draws).call .isNumber [c.toText]
      = .ok (.boolean (value.bind Value.number?).isSome) := by
  -- The call reads the cell in its own turn, so the value is taken over to the draws made there.
  have hthere : ((ctx.withDraws draws).toward .texts).surroundings.cellValue? c = .ok value :=
    (hdrawn.toward_eq draws .texts).trans hvalue
  have hpath' : c ∉ ((ctx.withDraws draws).toward .texts).path := hpath
  have htext : (ctx.withDraws draws).ask [c.toText] (.text 0)
      = .ok ((value.map Value.display).getD "") := by
    have hargument : ((ctx.withDraws draws).past 0).argumentTexts c.toText
        = .ok [(value.map Value.display).getD ""] :=
      (argumentTexts_toText haddress.1 haddress.2).trans (cellTexts_of_cellValue? hpath' hthere)
    rw [ask_text rfl, hargument]
    rfl
  -- What is shown spells a number exactly if the value has one. TRUE and FALSE are excluded, which
  -- have one and do not spell it.
  have hspells : spellsNumber ((value.map Value.display).getD "")
      = (value.bind Value.number?).isSome := by
    cases value with
    | none => decide
    | some v =>
        exact Value.spellsNumber_display (Surroundings.isFinite_cellValue? ctx.entersFinite hvalue)
          fun b hb => hboolean b (congrArg some hb)
  have hkind : Builtin.isNumber ∈ Builtin.kinds := by decide
  rw [call_kind hkind, htext, ← hspells, (Builtin.tests_eq _).2.1]
  rfl

end

/-- Of every argument that shows a text, exactly one of `ISBLANK`, `ISNUMBER` and `ISTEXT` is true,
whatever each of them draws, if what is drawn makes no difference to the text. A cell that is not on
the path, and has an undrawn value other than a truth value, is a number for `ISNUMBER` if and only
if `COUNT` counts it. This is because whatever is shown of a finite number can be read as a finite
number. -/
theorem kinds_agree :
    (∀ (ctx : Context) (argument s : String),
      (ctx.Undrawn fun ctx => ctx.ask [argument] (.text 0)) → ctx.ask [argument] (.text 0) = .ok s →
      ∃ f ∈ Builtin.kinds, ∀ g ∈ Builtin.kinds, ∀ draws,
        (ctx.withDraws draws).call g [argument] = .ok (.boolean (g == f))) ∧
    (∀ (ctx : Context) (c : CellRef) (value : Option Value), c.HasAddress → c ∉ ctx.path →
      (ctx.Undrawn fun ctx => ctx.surroundings.cellValue? c) →
      ctx.surroundings.cellValue? c = .ok value → (∀ b, value ≠ some (.boolean b)) →
      (∃ b, ∀ draws, (ctx.withDraws draws).call .isNumber [c.toText] = .ok (.boolean b) ∧
        (ctx.withDraws draws).call .count [c.toText] = .ok (.number (truthNumber b))) ∧
      ∀ draws draws',
        (ctx.withDraws draws).call .isNumber [c.toText] = .ok (.boolean true) ↔
          (ctx.withDraws draws').call .count [c.toText] = .ok (.number 1)) ∧
    ∀ x : Float, x.isFinite → ∃ y, parseNumber (displayNumber x).toList = some y ∧ y.isFinite := by
  refine ⟨?_, ?_, ?_⟩
  · intro ctx argument s hdrawn hs
    -- The text alone decides which of the three tests holds.
    refine ⟨Builtin.kindOf s, Builtin.kindOf_mem s, fun g hg draws => ?_⟩
    have hthere : (ctx.withDraws draws).ask [argument] (.text 0) = .ok s := (hdrawn draws).trans hs
    rw [call_kind hg, hthere]
    rfl
  · intro ctx c value haddress hpath hdrawn hvalue hboolean
    have hnumber := fun draws => call_isNumber_toText hpath hvalue hdrawn haddress draws hboolean
    have hcount := call_count_toText hvalue hdrawn haddress
    refine ⟨⟨_, fun draws => ⟨hnumber draws, hcount draws⟩⟩, fun draws draws' => ?_⟩
    rw [hnumber draws, hcount draws']
    -- One number is counted or none, and only 1 stands for TRUE.
    cases (value.bind Value.number?).isSome <;> decide +kernel
  · exact fun x hx => parseNumber_displayNumber_isFinite hx

/-- The number in `B1` is shown as a zero, and is a number all the same. The truth value in `D1`
counts but shows no number. -/
theorem kinds_agree_in_row :
    let ctx := (Grid.ofRows [["-0.1", "=A1/2400", "word", "=ISTEXT(C1)"]]).context .morning
    let b : CellRef := ⟨0, 1⟩
    let x : Float := -0.1 / 2400
    ((ctx.Undrawn fun ctx => ctx.ask ["C1"] (.text 0)) ∧ ctx.ask ["C1"] (.text 0) = .ok "word" ∧
        ∃ f ∈ Builtin.kinds, ∀ g ∈ Builtin.kinds, ∀ draws,
          (ctx.withDraws draws).call g ["C1"] = .ok (.boolean (g == f))) ∧
      (b.HasAddress ∧ b ∉ ctx.path ∧ (ctx.Undrawn fun ctx => ctx.surroundings.cellValue? b) ∧
        ctx.surroundings.cellValue? b = .ok (some (.number x)) ∧
        ctx.call .isNumber [b.toText] = .ok (.boolean true) ∧
        ∀ draws, (ctx.withDraws draws).call .count [b.toText] = .ok (.number 1)) ∧
      (x.isFinite ∧ displayNumber x = "0" ∧
        ∃ y, parseNumber (displayNumber x).toList = some y ∧ y.isFinite) ∧
      ctx.call .isNumber ["D1"] = .ok (.boolean false) ∧
      ctx.call .count ["D1"] = .ok (.number 1) := by
  intro ctx b x
  obtain ⟨hkinds, hcells, hshown⟩ := kinds_agree
  have hgrid : ctx.grid.DrawsNothing := Grid.drawsNothing_of_coordinates (by decide +kernel)
  have hdrawn : ctx.Undrawn fun ctx => ctx.ask ["C1"] (.text 0) :=
    undrawn_ask hgrid (by decide +kernel) _
  have hdrawn' : ctx.Undrawn fun ctx => ctx.surroundings.cellValue? b := undrawn_cellValue? hgrid b
  have hword : ctx.ask ["C1"] (.text 0) = .ok "word" := eq_ok_of_toOption (by decide +kernel)
  have haddress : b.HasAddress := by decide
  have hpath : b ∉ ctx.path := by decide
  have hvalue : ctx.surroundings.cellValue? b = .ok (some (.number x)) :=
    eq_ok_of_toOption (by decide +kernel)
  have hnumber : ctx.call .isNumber [b.toText] = .ok (.boolean true) :=
    eq_ok_of_toOption (by decide +kernel)
  have hfinite : x.isFinite := by decide +kernel
  -- -0.1 / 2400 is shown as 0, and that is still a number.
  have hiff := (hcells ctx b _ haddress hpath hdrawn' hvalue (by simp)).2
  have hcount : ∀ draws, (ctx.withDraws draws).call .count [b.toText] = .ok (.number 1) :=
    fun draws => (hiff ctx.ambient.draw draws).mp hnumber
  exact ⟨⟨hdrawn, hword, hkinds ctx _ _ hdrawn hword⟩,
    ⟨haddress, hpath, hdrawn', hvalue, hnumber, hcount⟩,
    ⟨hfinite, by decide +kernel, hshown x hfinite⟩,
    eq_ok_of_toOption (by decide +kernel), eq_ok_of_toOption (by decide +kernel)⟩

/-- A cell that is a number or a text as a coin falls may be both, or neither. It may also be
counted without being a number. -/
theorem kinds_differ_if_drawn :
    let ctx := (Grid.ofRows [["=IF(RANDBETWEEN(0,1),\"x\",5)"]]).context .morning
    let heads := ctx.withDraws (.constant 0)
    let tails := ctx.withDraws (.constant 1)
    heads.ask ["A1"] (.text 0) = .ok "5" ∧ tails.ask ["A1"] (.text 0) = .ok "x" ∧
      (heads.call .isNumber ["A1"] = .ok (.boolean true) ∧
        tails.call .isText ["A1"] = .ok (.boolean true)) ∧
      (heads.call .isBlank ["A1"] = .ok (.boolean false) ∧
        tails.call .isNumber ["A1"] = .ok (.boolean false) ∧
        heads.call .isText ["A1"] = .ok (.boolean false)) ∧
      heads.call .count ["A1"] = .ok (.number 1) := by
  intro ctx heads tails
  refine ⟨?_, ?_, ⟨?_, ?_⟩, ⟨?_, ?_, ?_⟩, ?_⟩
  all_goals exact eq_ok_of_toOption (by decide +kernel)

end Context
end FormulaTable
