import FormulaTable.Proofs.Evaluation.Finite
import FormulaTable.Proofs.Evaluation.SumOfMatches
import FormulaTable.Proofs.Number.ReadBack

/-!
# `FormulaTable.Proofs.Evaluation.ShownNumbers`: adding up what cells show

Numbers of cells reach a function in two ways. `SUM` asks for the numbers of the values. `SUMIF`
asks for texts, which it has to compare, and reads the numbers to be added from these texts; but a
text that is shown has only four digits after the point.

`Context.sumIf_adds_shown_numbers` has both sums for a range whose cells all show the same text, and
whose numbers do not depend on what is drawn. They are the same number if every value can be read
back from what is shown of it (`Value.ReadsBack`). For numbers without a fraction this is
`parseNumber_displayNumber`; a third is not read back (`Context.sumIf_of_thirds`).
-/

set_option autoImplicit false

namespace FormulaTable

open Meaning

/-! ## Values and what is shown of them -/

namespace Value

/-- The text that is shown of a value spells the number that the value stands for. Zero stands in
where there is no number. -/
def ReadsBack (v : Value) : Prop :=
  SameNumber ((parseNumber v.display.toList).getD 0) (v.number?.getD 0)

instance (v : Value) : Decidable v.ReadsBack :=
  inferInstanceAs (Decidable (SameNumber _ _))

/-- A value of which the shown text leaves nothing out: any but a number with a fraction, and the
truth value that stands for one. -/
def ShownInFull : Value → Prop
  | .number n => IsWhole n
  | .text _ => True
  | .boolean b => b = false
  | .sentinel _ => True

/-- What leaves nothing out can be read back. -/
theorem ShownInFull.readsBack {v : Value} (h : v.ShownInFull) : v.ReadsBack := by
  cases v with
  | number n =>
      obtain ⟨y, hy, hsame⟩ := parseNumber_displayNumber h
      show SameNumber ((parseNumber (displayNumber n).toList).getD 0) n
      rw [hy]
      exact hsame
  | text s => exact .refl _
  | boolean b =>
      obtain rfl : b = false := h
      decide +kernel
  | sentinel s => cases s <;> decide +kernel

end Value

namespace Grid

/-- The value that a cell shows. -/
def shown (g : Grid) (ambient : Ambient) (c : CellRef) : Value :=
  (g.context ambient).settled c

variable {g : Grid} {ambient : Ambient}

/-- A range whose cells all show the text that is looked for is added up as a whole. -/
theorem sumByPlace_self {wanted : String} {r : CellRange}
    (h : ∀ c ∈ g.cellsOf r, g.displayText ambient c = wanted) :
    g.sumByPlace ambient ambient wanted r r
      = total ((g.cellsOf r).map (g.numberShown ambient)) := by
  have hall : (g.keptOffsets r).filter (fun o => g.displayText ambient (r.cellAt o) == wanted)
      = g.keptOffsets r := by
    rw [List.filter_eq_self]
    intro o ho
    rw [cellsOf_eq_map] at h
    exact beq_iff_eq.mpr (h (r.cellAt o) (List.mem_map_of_mem ho))
  rw [sumByPlace, cellsOf_eq_map]
  simp only [(zip_of_isPrefix List.prefix_rfl).1, List.filter_map, List.map_map,
    Function.comp_def, hall]

end Grid

namespace Context

variable {ctx : Context}

/-- A cell of the grid that gives a text gives the number of the value that it shows. -/
theorem cellNumbers_eq_shown {c : CellRef} (hc : ctx.grid.contains c) {texts : List String}
    (h : ctx.surroundings.cellTexts c = .ok texts) :
    ctx.surroundings.cellNumbers c = .ok (ctx.grid.shown ctx.ambient c).number?.toList := by
  obtain ⟨raw, hraw⟩ : ∃ raw, ctx.grid.text? c = some raw := by
    rw [← Option.isSome_iff_exists, Grid.isSome_text?, hc]
  rw [Surroundings.cellTexts_inside hraw] at h
  obtain ⟨entered, hentered, -⟩ := exists_of_map_ok h
  obtain ⟨value, hvalue⟩ : ∃ value, ctx.surroundings.cellValue? c = .ok (some value) := by
    rw [Surroundings.cellValue?_inside hraw, hentered]
    split
    · exact ⟨entered, rfl⟩
    · exact ⟨.text raw, rfl⟩
  have hshown : ctx.grid.shown ctx.ambient c = value := settled_of_cellValue? hvalue
  rw [Surroundings.cellNumbers, hvalue, hshown]
  rfl

section
variable {R K : String} {r : CellRange} {wanted : String}
  (hr : CellRange.ofString? R = some r)
include hr

/-- Where a range gives texts, it gives the numbers of the values that its cells in the grid show,
unless it makes a difference what is drawn. -/
theorem allNumbers_eq_shown (hdrawn : ctx.Undrawn fun ctx => ctx.ask [R] .allNumbers)
    {texts : List String} (h : ctx.argumentTexts R = .ok texts) :
    ctx.ask [R] .allNumbers = .ok ((ctx.grid.cellsOf r).flatMap fun c =>
      (ctx.grid.shown (ctx.toward .texts).ambient c).number?.toList) := by
  rw [ctx.argumentTexts_of_range hr] at h
  -- Draws for which the numbers are read with what is drawn for the texts.
  obtain ⟨whole, hwhole⟩ := Draws.exists_toward .numbers (ctx.toward .texts).ambient.draw
  have hplace : (ctx.withDraws whole).toward .numbers = ctx.toward .texts := by
    rw [withDraws_toward, hwhole]
    rfl
  have hsame : (ctx.withDraws whole).ask [R] .allNumbers = ctx.ask [R] .allNumbers := hdrawn whole
  rw [← hsame, ask_allNumbers_singleton, (ctx.withDraws whole).argumentNumbers_of_range hr, hplace]
  refine gather_of_forall_ok fun c hc => ?_
  obtain ⟨here, hhere⟩ := exists_of_gather_ok h c hc
  rw [Grid.cellsOf_eq_filter] at hc
  have hinside : (ctx.toward .texts).grid.contains c := (List.mem_filter.mp hc).2
  exact cellNumbers_eq_shown hinside hhere

/-- `SUMIF` of a range in the grid whose cells all show the text that is looked for adds up the
number that this text spells, as many times as there are cells. `SUM` adds up the numbers of the
values, where a cell without one counts as zero; here what is drawn must make no difference to them,
for `SUM` reads the range anew. The two sums are the same number, up to the sign of
a zero, if every number can be read back from what is shown of it. A whole number can, and so can
every value that is no number, except the truth value that stands for one. -/
theorem sumIf_adds_shown_numbers (hinside : ∀ c ∈ r.cells, ctx.grid.contains c)
    (hwanted : ctx.ask [R, K] (.text 1) = .ok wanted)
    (hall : ∀ c ∈ r.cells, ctx.grid.displayText (ctx.toward .texts).ambient c = wanted)
    (hmet : ∀ met, ctx.call .sumIf [R, K] ≠ .error (.circular met)) :
    let value := ctx.grid.shown (ctx.toward .texts).ambient
    let shownSum := total (r.cells.map fun _ => (parseNumber wanted.toList).getD 0)
    let numbers := r.cells.flatMap fun c => (value c).number?.toList
    ctx.call .sumIf [R, K] = .ok (.number shownSum) ∧
      ((ctx.Undrawn fun ctx => ctx.ask [R] .allNumbers) → ∀ draws,
        (ctx.withDraws draws).ask [R] .allNumbers = .ok numbers ∧
        (ctx.withDraws draws).call .sum [R] = .ok (.number (total numbers))) ∧
      SameNumber (total numbers) (total (r.cells.map fun c => (value c).number?.getD 0)) ∧
      ((∀ c ∈ r.cells, (value c).ReadsBack) → SameNumber shownSum (total numbers)) ∧
      ∀ c, (value c).ShownInFull → (value c).ReadsBack := by
  intro value shownSum numbers
  have hcells : ctx.grid.cellsOf r = r.cells := by
    rw [Grid.cellsOf_eq_filter, List.filter_eq_self]
    exact hinside
  let there := (ctx.toward .texts).ambient
  have hshownSum : total (r.cells.map (ctx.grid.numberShown there)) = shownSum := by
    have hsame : r.cells.map (ctx.grid.numberShown there)
        = r.cells.map fun _ => (parseNumber wanted.toList).getD 0 := by
      refine List.map_congr_left fun c hc => ?_
      rw [Grid.numberShown, hall c hc]
    rw [hsame]
  have hsumIf : ctx.call .sumIf [R, K] = .ok (.number shownSum) := by
    rw [← hshownSum, ← hcells]
    rw [← hcells] at hall
    rw [← Grid.sumByPlace_self hall]
    exact sumIf_eq_sumByPlace (.inr ⟨rfl, rfl, rfl⟩) hr hr hwanted hmet
  have hnumbers : (ctx.Undrawn fun ctx => ctx.ask [R] .allNumbers) → ∀ draws,
      (ctx.withDraws draws).ask [R] .allNumbers = .ok numbers := by
    intro hdrawn draws
    rw [call_sumIf (.inr ⟨rfl, rfl, rfl⟩)] at hsumIf
    obtain ⟨texts, htexts, -⟩ := exists_of_bind_ok hsumIf
    have hthere := (hdrawn draws).trans (allNumbers_eq_shown hr hdrawn htexts)
    rwa [hcells] at hthere
  have hskipped : SameNumber (total numbers)
      (total (r.cells.map fun c => (value c).number?.getD 0)) := by
    -- A cell without a number is left out on one side and counts as zero on the other.
    refine sameNumber_total_flatMap fun c _ => ?_
    cases (value c).number? with
    | none => exact Or.inl ⟨rfl, rfl⟩
    | some x => exact Or.inr ⟨x, rfl, .refl x⟩
  refine ⟨hsumIf, fun hdrawn draws => ⟨hnumbers hdrawn draws, ?_⟩, ?_, ?_,
    fun c => Value.ShownInFull.readsBack⟩
  · rw [call_eq_ask rfl]
    show (overNumbers total).run ((ctx.withDraws draws).readings [R]) = _
    rw [run_overNumbers, hnumbers hdrawn draws]
    rfl
  · exact hskipped
  · intro hreads
    rw [← hshownSum]
    refine SameNumber.trans ?_ hskipped.symm
    rw [List.map_eq_flatMap]
    refine sameNumber_total_flatMap fun c hc => Or.inr ⟨_, rfl, hreads c hc⟩

end

/-- A formula, an address and a text that all show the same whole number are added up alike. -/
theorem sumIf_adds_shown_numbers_whole :
    let ctx := (Grid.ofRows [["1"], ["=A1*2"], ["=A2"], ["2"]]).context .morning
    let r := CellRange.spanning ⟨1, 0⟩ ⟨3, 0⟩
    let there := (ctx.toward .texts).ambient
    CellRange.ofString? "A2:A4" = some r ∧
      (∀ c ∈ r.cells, ctx.grid.contains c ∧ ctx.grid.displayText there c = "2") ∧
      ctx.call .sumIf ["A2:A4", "A2"] = .ok (.number 6) ∧
      ((ctx.Undrawn fun ctx => ctx.ask ["A2:A4"] .allNumbers) ∧
        ctx.ask ["A2:A4"] .allNumbers = .ok [2, 2, 2] ∧ ∀ draws,
        (ctx.withDraws draws).call .sum ["A2:A4"] = .ok (.number (total [2, 2, 2]))) ∧
      SameNumber 6 (total [2, 2, 2]) := by
  intro ctx r there
  have hr : CellRange.ofString? "A2:A4" = some r := by decide +kernel
  have hcells : ∀ c ∈ r.cells, ctx.grid.contains c ∧ ctx.grid.displayText there c = "2" := by
    decide +kernel
  have hwanted : ctx.ask ["A2:A4", "A2"] (.text 1) = .ok "2" :=
    eq_ok_of_toOption (by decide +kernel)
  have hcall : ctx.call .sumIf ["A2:A4", "A2"] = .ok (.number 6) :=
    eq_ok_of_toOption (by decide +kernel)
  have hmet : ∀ met, ctx.call .sumIf ["A2:A4", "A2"] ≠ .error (.circular met) := by
    intro met
    rw [hcall]
    nofun
  have hasked : ctx.ask ["A2:A4"] .allNumbers = .ok [2, 2, 2] :=
    eq_ok_of_toOption (by decide +kernel)
  have hgrid : ctx.grid.DrawsNothing := Grid.drawsNothing_of_coordinates (by decide +kernel)
  have hdrawn : ctx.Undrawn fun ctx => ctx.ask ["A2:A4"] .allNumbers :=
    undrawn_ask hgrid (by decide +kernel) _
  obtain ⟨hsum, hnumbers, -, hreads, -⟩ :=
    sumIf_adds_shown_numbers hr (fun c hc => (hcells c hc).1) hwanted (fun c hc => (hcells c hc).2)
      hmet
  have hshown : ∀ c ∈ r.cells, (ctx.grid.shown there c).ReadsBack := by decide +kernel
  -- Both sums are known from the calls, so the theorem compares 6 with what SUM adds.
  have hsix : total (r.cells.map fun _ => (parseNumber "2".toList).getD 0) = 6 :=
    Value.number.inj (Except.ok.inj (hsum.symm.trans hcall))
  have hlist : (r.cells.flatMap fun c => (ctx.grid.shown there c).number?.toList) = [2, 2, 2] :=
    Except.ok.inj ((hnumbers hdrawn ctx.ambient.draw).1.symm.trans hasked)
  have htotal : ∀ draws,
      (ctx.withDraws draws).call .sum ["A2:A4"] = .ok (.number (total [2, 2, 2])) := by
    intro draws
    rw [← hlist]
    exact (hnumbers hdrawn draws).2
  refine ⟨hr, hcells, hcall, ⟨hdrawn, hasked, htotal⟩, ?_⟩
  rw [← hlist, ← hsix]
  exact hreads hshown

/-- Three cells show a third, and `SUMIF` adds up what they show: four digits after the point. The
numbers themselves add up to one. -/
theorem sumIf_of_thirds :
    let ctx := (Grid.ofRows [["1"], ["=A1/3"], ["=A1/3"], ["=A1/3"]]).context .morning
    let r := CellRange.spanning ⟨1, 0⟩ ⟨3, 0⟩
    CellRange.ofString? "A2:A4" = some r ∧ (∀ c ∈ r.cells, ctx.grid.contains c) ∧
      ctx.ask ["A2:A4", "A2"] (.text 1) = .ok "0.3333" ∧
      (∀ c ∈ r.cells, ctx.grid.displayText .morning c = "0.3333") ∧
      ctx.call .sumIf ["A2:A4", "A2"] = .ok (.number 0.9999) ∧
      ctx.call .sum ["A2:A4"] = .ok (.number 1) ∧ ¬ SameNumber 0.9999 1 := by
  intro ctx r
  refine ⟨by decide +kernel, by decide +kernel, ?_, by decide +kernel, ?_, ?_, by decide +kernel⟩
  · exact eq_ok_of_toOption (by decide +kernel)
  · exact eq_ok_of_toOption (by decide +kernel)
  · exact eq_ok_of_toOption (by decide +kernel)

end Context
end FormulaTable
