import FormulaTable.Proofs.Evaluation.Escape
import FormulaTable.Proofs.Evaluation.RangeReading
import FormulaTable.Proofs.Grid.Offset
import FormulaTable.Proofs.Number.Total

/-!
# `FormulaTable.Proofs.Evaluation.SumOfMatches`: which cells `SUMIF` takes for partners

`SUMIF` reads two ranges as lists of texts and goes along both. A range gives the texts of the cells
that the grid keeps of it, so two ranges of the same size may give lists that are cut differently,
and then the partner of a cell need not be at the same offset. `Grid.sumByPlace` is the sum over the
pairs that are met, `Grid.sumByOffset` the sum over the offsets of the ranges.

`Context.sumIf_pairs_by_place` says that `SUMIF` is the first sum, and when it is also the second
one. Each range is read at a place of its own, so what is shown in the one and in the other is shown
for different draws. Where one list of offsets is the beginning of the other, pairs have equal
offsets (`Grid.sumByPlace_eq_of_isPrefix`), and what is left of the first list adds zeros
(`Grid.sameNumber_sumByPlace`). Where the grid keeps two columns of one range and one of the other,
pairs run across the rows (`Context.sumIf_pairs_across_rows`).
-/

set_option autoImplicit false

namespace FormulaTable

open Meaning

/-! ## Sums over ranges -/

namespace Grid

section
variable (g : Grid) (ambient ambient' : Ambient)

/-- The number that is read from the text that a cell shows; zero if the text spells none. -/
def numberShown (c : CellRef) : Float :=
  (parseNumber (g.displayText ambient c).toList).getD 0

/-- The sum of the numbers shown in one range next to a text shown in another. Cells are next to
each other if they have the same place in the lists of cells that the grid keeps. The texts are
shown in one world, the numbers in another. -/
def sumByPlace (wanted : String) (r s : CellRange) : Float :=
  let pairs := (g.keptOffsets r).zip (g.keptOffsets s)
  total ((pairs.filter fun p => g.displayText ambient (r.cellAt p.1) == wanted).map
    fun p => g.numberShown ambient' (s.cellAt p.2))

/-- The sum of the numbers shown in one range next to a text shown in another. Cells are next to
each other if they have the same offset. -/
def sumByOffset (wanted : String) (r s : CellRange) : Float :=
  let matching := r.offsets.filter fun o =>
    g.contains (r.cellAt o) && g.displayText ambient (r.cellAt o) == wanted
  total (matching.map fun o => g.numberShown ambient' (s.cellAt o))

end

variable {g : Grid} {ambient ambient' : Ambient}

/-- Adding up along the texts of two ranges is adding up cell by cell. -/
theorem sumOfMatches_shown (wanted : String) (r s : CellRange) :
    sumOfMatches wanted ((g.cellsOf r).map (g.displayText ambient))
      ((g.cellsOf s).map (g.displayText ambient')) = g.sumByPlace ambient ambient' wanted r s := by
  simp only [sumOfMatches, sumByPlace, cellsOf_eq_map, List.map_map, List.zip_map, List.filter_map,
    Function.comp_def, Prod.map]
  rfl

/-- Outside the grid no number is shown. -/
theorem numberShown_outside {c : CellRef} (h : ¬ g.contains c) : g.numberShown ambient c = 0 := by
  have hraw : g.text? c = none := text?_of_not_contains h
  have hempty : g.displayText ambient c = "" := by
    simp [displayText, Context.settled, context, hraw, isFormula, Value.display]
  rw [numberShown, hempty]
  decide +kernel

/-- Of the offsets of a range, those that count are among the ones that the grid keeps. -/
theorem sumByOffset_eq (wanted : String) (r s : CellRange) :
    g.sumByOffset ambient ambient' wanted r s = total (((g.keptOffsets r).filter fun o =>
      g.displayText ambient (r.cellAt o) == wanted).map fun o =>
        g.numberShown ambient' (s.cellAt o)) := by
  have hmatching : r.offsets.filter (fun o => g.contains (r.cellAt o) &&
      g.displayText ambient (r.cellAt o) == wanted)
      = (g.keptOffsets r).filter fun o => g.displayText ambient (r.cellAt o) == wanted := by
    rw [keptOffsets_eq_filter, List.filter_filter]
    exact List.filter_congr fun o _ => Bool.and_comm _ _
  rw [sumByOffset, hmatching]

section
variable {wanted : String} {r s : CellRange}

/-- Where the first range is cut off earlier, every cell that is kept of it has its partner at the
same offset. -/
theorem sumByPlace_eq_of_isPrefix (h : g.keptOffsets r <+: g.keptOffsets s) :
    g.sumByPlace ambient ambient' wanted r s = g.sumByOffset ambient ambient' wanted r s := by
  rw [sumByOffset_eq, sumByPlace]
  simp only [(zip_of_isPrefix h).1, List.filter_map, List.map_map, Function.comp_def]

/-- Where the second range is cut off earlier, the cells left over of the first one have no partner.
Their offsets lead outside the grid, where zeros are shown. -/
theorem sameNumber_sumByPlace (hsize : r.offsets = s.offsets)
    (h : g.keptOffsets s <+: g.keptOffsets r) :
    SameNumber (g.sumByPlace ambient ambient' wanted r s)
      (g.sumByOffset ambient ambient' wanted r s) := by
  have hnodup : (g.keptOffsets r).Nodup := nodup_rectangle _ _
  have hkept : ∀ o ∈ g.keptOffsets r, o ∈ s.offsets := by
    intro o ho
    rw [← hsize]
    exact (mem_keptOffsets.mp ho).1
  rw [sumByOffset_eq, sumByPlace]
  simp only [(zip_of_isPrefix h).2, List.filter_map, List.map_map, Function.comp_def]
  -- The offsets kept of the searched range are those of the summed one and a rest, and nothing
  -- stands at the rest to be summed.
  obtain ⟨rest, hrest⟩ := h
  rw [← hrest] at hnodup hkept ⊢
  rw [List.filter_append, List.map_append]
  refine (sameNumber_total_append _ _ ?_).symm
  intro zero hzero
  obtain ⟨o, ho, rfl⟩ := List.mem_map.mp hzero
  have horest : o ∈ rest := (List.mem_filter.mp ho).1
  have hout : ¬ g.contains (s.cellAt o) := by
    intro hcontains
    have hmem : o ∈ g.keptOffsets s :=
      mem_keptOffsets.mpr ⟨hkept o (List.mem_append_right _ horest), hcontains⟩
    exact (List.nodup_append.mp hnodup).2.2 o hmem o horest rfl
  rw [numberShown_outside hout]
  decide

end

end Grid

namespace Context

variable {ctx : Context}

section
variable {text : String} {r : CellRange} (hr : CellRange.ofString? text = some r)
include hr

/-- A range gives the texts that its cells in the grid show, at the place where they are read. -/
theorem argumentTexts_eq_shown {texts : List String} (h : ctx.argumentTexts text = .ok texts) :
    texts = (ctx.grid.cellsOf r).map (ctx.grid.displayText (ctx.toward .texts).ambient) := by
  rw [ctx.argumentTexts_of_range hr] at h
  have hcell : ∀ c ∈ ctx.grid.cellsOf r, (ctx.toward .texts).surroundings.cellTexts c
      = .ok [ctx.grid.displayText (ctx.toward .texts).ambient c] := by
    intro c hc
    obtain ⟨here, hhere⟩ := exists_of_gather_ok h c hc
    obtain ⟨shown, hshown, -⟩ := exists_of_bind_ok hhere
    have htext : ctx.grid.displayText (ctx.toward .texts).ambient c = shown :=
      displayText_of_cellText hshown
    rw [htext, Surroundings.cellTexts, hshown]
    rfl
  rw [gather_of_forall_ok hcell] at h
  rw [List.map_eq_flatMap]
  exact (Except.ok.inj h).symm

end

/-! ## `SUMIF` -/

/-- `SUMIF` makes something of whatever its arguments give. -/
theorem sumMatches_neverRefuses (count : Nat) : (sumMatches count).NeverRefuses := by
  intro texts wanted
  show Query.NeverRefuses (if 2 < count then _ else _)
  split
  · intro addends
    trivial
  · trivial

section
-- The range to be added up is an argument of its own, or else the first one.
variable {R K S : String} {arguments : List String} {index : Nat}
  (h : arguments = [R, K, S] ∧ index = 2 ∨ arguments = [R, K] ∧ S = R ∧ index = 0)
include h

/-- `SUMIF` reads its arguments one after the other. -/
theorem call_sumIf (ctx : Context) : ctx.call .sumIf arguments = (do
    let texts ← ctx.argumentTexts R
    let wanted ← ctx.ask arguments (.text 1)
    let addends ← (ctx.past index).argumentTexts S
    return .number (sumOfMatches wanted texts addends)) := by
  have hfirst : arguments[0]? = some R := by
    rcases h with ⟨rfl, -⟩ | ⟨rfl, -⟩ <;> rfl
  have hsecond : arguments[1]? = some K := by
    rcases h with ⟨rfl, -⟩ | ⟨rfl, -⟩ <;> rfl
  have hcall : ctx.call .sumIf arguments = ctx.ask arguments (sumMatches arguments.length) := by
    rcases h with ⟨rfl, -⟩ | ⟨rfl, -⟩ <;> exact call_eq_ask rfl
  rw [hcall, ask_text hsecond]
  refine (run_texts_only hfirst _).trans ?_
  show ctx.argumentTexts R >>= _ = _
  cases hR : ctx.argumentTexts R with
  | error why => rfl
  | ok texts =>
      refine (run_texts_only hsecond _).trans ?_
      cases (ctx.past 1).argumentTexts K with
      | error why => rfl
      | ok wanted =>
          rcases h with ⟨rfl, rfl⟩ | ⟨rfl, rfl, rfl⟩
          · have hthird : [R, K, S][2]? = some S := rfl
            refine (run_texts_only hthird _).trans ?_
            cases (ctx.past 2).argumentTexts S <;> rfl
          · -- The texts of the first argument are at hand.
            show _ = ctx.argumentTexts S >>= _
            rw [hR]
            rfl

/-- `SUMIF` never refuses its arguments, so it has a result if no circular reference is met. -/
theorem exists_sumIf (hmet : ∀ met, ctx.call .sumIf arguments ≠ .error (.circular met)) :
    ∃ value, ctx.call .sumIf arguments = .ok value := by
  have hcall : ctx.call .sumIf arguments = ctx.ask arguments (sumMatches arguments.length) := by
    rcases h with ⟨rfl, -⟩ | ⟨rfl, -⟩ <;> exact call_eq_ask rfl
  rw [hcall] at hmet ⊢
  rcases resultOrCircular_ask ctx arguments (sumMatches_neverRefuses _) with
    hvalue | ⟨met, hcircular, -⟩
  · exact hvalue
  · exact absurd hcircular (hmet met)

/-- `SUMIF` pairs the cells that the grid keeps of two ranges by their places. -/
theorem sumIf_eq_sumByPlace {r s : CellRange} (hr : CellRange.ofString? R = some r)
    (hs : CellRange.ofString? S = some s) {wanted : String}
    (hwanted : ctx.ask arguments (.text 1) = .ok wanted)
    (hmet : ∀ met, ctx.call .sumIf arguments ≠ .error (.circular met)) :
    ctx.call .sumIf arguments
      = .ok (.number (ctx.grid.sumByPlace (ctx.toward .texts).ambient
          ((ctx.past index).toward .texts).ambient wanted r s)) := by
  obtain ⟨value, hvalue⟩ := exists_sumIf h hmet
  rw [hvalue]
  rw [call_sumIf h] at hvalue
  obtain ⟨texts, htexts, hmore⟩ := exists_of_bind_ok hvalue
  rw [hwanted] at hmore
  obtain ⟨_, ⟨⟩, hrest⟩ := exists_of_bind_ok hmore
  obtain ⟨addends, haddends, hsum⟩ := exists_of_bind_ok hrest
  -- The ranges are read in different turns, which can differ in what is drawn but not in the grid.
  have hgrid : (ctx.past index).grid = ctx.grid := by
    obtain ⟨draws, hdraws⟩ := ctx.past_eq_withDraws index
    rw [hdraws]
    rfl
  have hshown := argumentTexts_eq_shown hs haddends
  rw [hgrid] at hshown
  rw [← Grid.sumOfMatches_shown, ← argumentTexts_eq_shown hr htexts, ← hshown]
  exact hsum.symm

end

/-- `SUMIF` of two ranges of the same size adds up the numbers shown in the second one next to the
text that is looked for in the first, where cells are next to each other if they have the same place
among the cells that the grid keeps. What is drawn for the cells is drawn at the places where the
two ranges are read. This is the sum over all offsets if the cells kept of one range are at the
offsets with which those kept of the other begin; only the sign of a zero may differ, and only if
more is kept of the first range. So it is if the grid keeps the same number of columns of both, or
if the ranges have one row. -/
theorem sumIf_pairs_by_place {R K S : String} {r s : CellRange} {wanted : String}
    (hr : CellRange.ofString? R = some r) (hs : CellRange.ofString? S = some s)
    (hrows : r.rowCount = s.rowCount) (hcols : r.colCount = s.colCount)
    (hwanted : ctx.ask [R, K, S] (.text 1) = .ok wanted)
    (hmet : ∀ met, ctx.call .sumIf [R, K, S] ≠ .error (.circular met)) :
    let g := ctx.grid
    let there := (ctx.toward .texts).ambient
    let there' := ((ctx.past 2).toward .texts).ambient
    let kept := g.keptOffsets r
    let kept' := g.keptOffsets s
    ctx.call .sumIf [R, K, S] = .ok (.number (g.sumByPlace there there' wanted r s)) ∧
      (kept <+: kept' →
        g.sumByPlace there there' wanted r s = g.sumByOffset there there' wanted r s) ∧
      (kept' <+: kept → SameNumber (g.sumByPlace there there' wanted r s)
        (g.sumByOffset there there' wanted r s)) ∧
      (g.keptCols r = g.keptCols s ∨ r.rowCount = 1 → kept <+: kept' ∨ kept' <+: kept) := by
  intro g there there' kept kept'
  -- Ranges of one size have the same offsets.
  have hsize : r.offsets = s.offsets := by
    rw [CellRange.offsets, hrows, hcols]
    rfl
  exact ⟨sumIf_eq_sumByPlace (.inl ⟨rfl, rfl⟩) hr hs hwanted hmet, Grid.sumByPlace_eq_of_isPrefix,
    Grid.sameNumber_sumByPlace hsize, Grid.keptOffsets_prefix_or hrows⟩

/-- The grid cuts off the last row of the first range and the last two rows of the second, but no
column. The cell of the second range next to `A3` lies below the grid and adds nothing. -/
theorem sumIf_pairs_by_place_at_bottom :
    let g := Grid.ofRows [["x", "1"], ["y", "2.50"], ["x", "=B1+B2"]]
    let ctx := g.context .morning
    let r := CellRange.spanning ⟨0, 0⟩ ⟨3, 0⟩
    let s := CellRange.spanning ⟨1, 1⟩ ⟨4, 1⟩
    (CellRange.ofString? "A1:A4" = some r ∧ CellRange.ofString? "B2:B5" = some s) ∧
      ctx.call .sumIf ["A1:A4", "A1", "B2:B5"] = .ok (.number 2.5) ∧
      SameNumber 2.5 (g.sumByOffset (ctx.toward .texts).ambient ((ctx.past 2).toward .texts).ambient
        "x" r s) := by
  intro g ctx r s
  have hr : CellRange.ofString? "A1:A4" = some r := by decide +kernel
  have hs : CellRange.ofString? "B2:B5" = some s := by decide +kernel
  have hwanted : ctx.ask ["A1:A4", "A1", "B2:B5"] (.text 1) = .ok "x" :=
    eq_ok_of_toOption (by decide +kernel)
  have hcall : ctx.call .sumIf ["A1:A4", "A1", "B2:B5"] = .ok (.number 2.5) :=
    eq_ok_of_toOption (by decide +kernel)
  have hmet : ∀ met, ctx.call .sumIf ["A1:A4", "A1", "B2:B5"] ≠ .error (.circular met) := by
    intro met
    rw [hcall]
    nofun
  obtain ⟨hplace, -, hoffset, -⟩ := sumIf_pairs_by_place hr hs rfl rfl hwanted hmet
  have hsum : g.sumByPlace (ctx.toward .texts).ambient ((ctx.past 2).toward .texts).ambient "x" r s
      = 2.5 := Value.number.inj (Except.ok.inj (hplace.symm.trans hcall))
  -- Three rows of the searched range lie in the grid and two of the summed one, which runs out
  -- first.
  refine ⟨⟨hr, hs⟩, hcall, ?_⟩
  rw [← hsum]
  exact hoffset (by decide +kernel)

/-- The first range loses its second column to the edge of the grid, and the second range does not.
So the cell next to `B2` by place is `B1`, and by offset it is `A2`. -/
theorem sumIf_pairs_across_rows :
    let g := Grid.ofRows [["1", "x"], ["10", "x"]]
    let ctx := g.context .morning
    let r := CellRange.spanning ⟨0, 1⟩ ⟨1, 2⟩
    let s := CellRange.spanning ⟨0, 0⟩ ⟨1, 1⟩
    (CellRange.ofString? "B1:C2" = some r ∧ CellRange.ofString? "A1:B2" = some s) ∧
      (r.rowCount = s.rowCount ∧ r.colCount = s.colCount) ∧
      ctx.ask ["B1:C2", "\"x\"", "A1:B2"] (.text 1) = .ok "x" ∧
      ctx.call .sumIf ["B1:C2", "\"x\"", "A1:B2"] = .ok (.number 1) ∧
      g.sumByOffset .morning .morning "x" r s = 11 ∧ ¬ SameNumber 1 11 := by
  intro g ctx r s
  refine ⟨⟨by decide +kernel, by decide +kernel⟩, ⟨rfl, rfl⟩, ?_, ?_, by decide +kernel,
    by decide +kernel⟩
  · exact eq_ok_of_toOption (by decide +kernel)
  · exact eq_ok_of_toOption (by decide +kernel)

end Context
end FormulaTable
