import FormulaTable.Proofs.Builtin.EmptyTexts
import FormulaTable.Proofs.Evaluation.Undrawn
import FormulaTable.Proofs.Grid.Shape

/-!
# `FormulaTable.Proofs.Evaluation.Growth`: blank rows and columns change no value

When a grid grows, references that went past its edge meet blank cells, and ranges that were clipped
become longer; a new column also comes between the cells that a range has in two rows.
`Grid.settled_grow` says that no cell changes its value for that, as long as no formula calls
`COUNTIF` or `SUMIF`. These two do see blank cells, as the example after the theorem shows.

A cell outside the grid and a blank cell have the same readings: no number and an empty text. So a
range gives the same numbers after the growth, and texts that are the same up to empty ones
(`Surroundings.GrownFrom.readsAlikeHere`); what functions make of them is
`Builtin.respects_sameButEmpty`. A cell outside the grid is not a formula cell and therefore never
on the path, so the cycle guard does not tell it from a blank cell either. The induction is over
contexts (`Context.enter_grown`).
-/

set_option autoImplicit false

namespace FormulaTable

/-! ## Grids that grow -/

/-- A way to make a grid larger by blank cells. -/
inductive Growth where
  | row
  | column
  deriving DecidableEq, Repr

namespace Grid

/-- The grid with a blank row below or a blank column on the right. -/
def grow (g : Grid) : Growth → Grid
  | .row => g.addRow
  | .column => g.addColumn

/-- A grid that has grown by blank cells contains all cells it contained before, and every cell has
the text it had; outside a grid a text counts as empty. -/
structure Grows (g g' : Grid) : Prop where
  contains : ∀ c, g.contains c → g'.contains c
  text : ∀ c, (g'.text? c).getD "" = (g.text? c).getD ""

/-- A grid that stays as it is has grown by nothing. -/
theorem Grows.refl (g : Grid) : g.Grows g :=
  ⟨fun _ h => h, fun _ => rfl⟩

/-- To grow twice is to grow. -/
theorem Grows.trans {g g' g'' : Grid} (h : g.Grows g') (h' : g'.Grows g'') : g.Grows g'' where
  contains c hc := h'.contains c (h.contains c hc)
  text c := (h'.text c).trans (h.text c)

/-- A blank row or column makes a grid grow. -/
theorem grows_grow (g : Grid) (growth : Growth) : g.Grows (g.grow growth) := by
  -- Either way no cell is lost, and every text stays where it is.
  cases growth with
  | row =>
      refine ⟨fun c hc => ?_, g.getD_text?_addRow⟩
      have hrows := g.rowCount_addRow
      have hcols : g.addRow.colCount = g.colCount := rfl
      obtain ⟨hrow, hcol⟩ := contains_iff.mp hc
      show g.addRow.contains c
      rw [contains_iff]
      omega
  | column =>
      refine ⟨fun c hc => ?_, g.getD_text?_addColumn⟩
      have hrows := g.rowCount_addColumn
      have hcols : g.addColumn.colCount = g.colCount + 1 := rfl
      obtain ⟨hrow, hcol⟩ := contains_iff.mp hc
      show g.addColumn.contains c
      rw [contains_iff]
      omega

/-- Blank rows and columns make a grid grow, one after the other and in any order. -/
theorem grows_foldl_grow (g : Grid) (growths : List Growth) :
    g.Grows (growths.foldl grow g) := by
  induction growths generalizing g with
  | nil => exact .refl g
  | cons growth rest ih => exact (g.grows_grow growth).trans (ih (g.grow growth))

/-- A cell that was there before has the very text it had. -/
theorem Grows.text?_eq {g g' : Grid} (h : g.Grows g') {c : CellRef} (hc : g.contains c) :
    g'.text? c = g.text? c := by
  have hsome : (g.text? c).isSome := (g.isSome_text? c).trans hc
  have hsome' : (g'.text? c).isSome := (g'.isSome_text? c).trans (h.contains c hc)
  obtain ⟨raw, hraw⟩ := Option.isSome_iff_exists.mp hsome
  obtain ⟨raw', hraw'⟩ := Option.isSome_iff_exists.mp hsome'
  have htext := h.text c
  rw [hraw, hraw'] at htext ⊢
  exact congrArg some htext

end Grid

/-! ## The readings of blank cells -/

namespace Surroundings

variable {env env' : Surroundings} {c : CellRef}

/-- A blank cell has no number, be it in the grid or not. -/
theorem cellNumbers_of_blank (hc : (env.grid.text? c).getD "" = "") :
    env.cellNumbers c = .ok [] := by
  rw [cellNumbers, cellValue?]
  cases htext : env.grid.text? c with
  | none => rfl
  | some raw =>
      obtain rfl : raw = "" := by simpa [htext] using hc
      rfl

/-- A blank cell has an empty text, be it in the grid or not. -/
theorem cellTexts_of_blank (henter : env.enter c = .ok (.text "")) :
    env.cellTexts c = .ok [""] := by
  rw [cellTexts, cellText]
  cases env.grid.text? c with
  | none => rfl
  | some raw =>
      rw [henter]
      rfl

/-- The texts of cells begin with the text of the first. -/
theorem cellTexts_of_gather {rest : List CellRef} {texts : List String}
    (h : gather env.cellTexts (c :: rest) = .ok texts) :
    env.cellTexts c = .ok [texts.head?.getD ""] := by
  rw [gather, cellTexts] at h
  obtain ⟨here, hhere, hmore⟩ := exists_of_bind_ok h
  obtain ⟨text, htext, hsingle⟩ := exists_of_bind_ok hhere
  obtain ⟨others, -, hall⟩ := exists_of_bind_ok hmore
  obtain rfl : [text] = here := Except.ok.inj hsingle
  obtain rfl : text :: others = texts := Except.ok.inj hall
  rw [cellTexts, htext]
  rfl

/-- The texts of blank cells are empty. -/
theorem gather_cellTexts_of_blank {cells : List CellRef}
    (h : ∀ c ∈ cells, env.cellTexts c = .ok [""]) :
    gather env.cellTexts cells = .ok (List.replicate cells.length "") := by
  induction cells with
  | nil => rfl
  | cons c rest ih =>
      rw [gather, h c List.mem_cons_self, ih fun d hd => h d (List.mem_cons_of_mem c hd)]
      rfl

/-! ## Readings after the growth -/

/-- Surroundings after a growth, compared with those before: the grid has grown, every cell has the
outcome it had, and a blank cell has the empty text. -/
structure GrownFrom (env env' : Surroundings) : Prop where
  grid : env'.grid.Grows env.grid
  enter : ∀ c, env.enter c = env'.enter c
  blank : ∀ c, (env'.grid.text? c).getD "" = "" → env'.enter c = .ok (.text "")

namespace GrownFrom

variable (h : env.GrownFrom env')
include h

/-- What the growth adds is blank, and so is what lies beyond it. -/
theorem blank_of_not_contains (hc : ¬ env'.grid.contains c) :
    env.cellNumbers c = .ok [] ∧ env.cellTexts c = .ok [""] := by
  have htext' : (env'.grid.text? c).getD "" = "" := by
    rw [Grid.text?_of_not_contains hc]
    rfl
  have htext : (env.grid.text? c).getD "" = "" := (h.grid.text c).trans htext'
  have hvalue : env.enter c = .ok (.text "") := (h.enter c).trans (h.blank c htext')
  exact ⟨cellNumbers_of_blank htext, cellTexts_of_blank hvalue⟩

/-- Every cell has the readings it had. -/
theorem cell_congr (c : CellRef) :
    env.cellNumbers c = env'.cellNumbers c ∧ env.cellTexts c = env'.cellTexts c := by
  by_cases hc : env'.grid.contains c
  · have htext := h.grid.text?_eq hc
    exact ⟨cellNumbers_congr htext (h.enter c), cellTexts_congr htext (h.enter c)⟩
  · obtain ⟨hnumbers, htexts⟩ := h.blank_of_not_contains hc
    have htext' : env'.grid.text? c = none := Grid.text?_of_not_contains hc
    rw [hnumbers, htexts, cellNumbers, cellValue?, cellTexts, cellText, htext']
    exact ⟨rfl, rfl⟩

/-- A range has the cells it had, and among them the cells that the growth adds. -/
theorem cellsOf_eq (r : CellRange) :
    env'.cellsOf r = (env.cellsOf r).filter env'.grid.contains :=
  Grid.cellsOf_filter h.grid.contains r

/-- A range gives the same numbers as before. -/
theorem gather_cellNumbers_eq (r : CellRange) :
    gather env.cellNumbers (env.cellsOf r) = gather env'.cellNumbers (env'.cellsOf r) := by
  rw [h.cellsOf_eq r, ← sameOutcome_eq]
  refine gather_filter_alike rfl (fun hxs hys => by rw [hxs, hys]) (fun c _ _ => ?_)
    fun c _ hc => ?_
  · exact sameOutcome_eq.mpr (h.cell_congr c).1
  · exact ⟨[], (h.blank_of_not_contains hc).1, rfl⟩

/-- A range gives the same texts as before, up to empty ones. -/
theorem gather_cellTexts_filled (r : CellRange) :
    SameOutcome SameFilled (gather env.cellTexts (env.cellsOf r))
      (gather env'.cellTexts (env'.cellsOf r)) := by
  rw [h.cellsOf_eq r]
  refine gather_filter_alike (S := SameFilled) rfl SameFilled.append (fun c _ _ => ?_)
    fun c _ hc => ?_
  · exact .of_eq (fun _ => rfl) (h.cell_congr c).2
  · exact ⟨[""], (h.blank_of_not_contains hc).2, rfl⟩

/-- The first text of a range stays as well. -/
theorem gather_cellTexts_alike (r : CellRange) :
    SameOutcome SameButEmpty (gather env.cellTexts (env.cellsOf r))
      (gather env'.cellTexts (env'.cellsOf r)) := by
  by_cases hfirst : env'.grid.contains r.first
  · -- The range begins with a cell that was there before.
    obtain ⟨rest, hrest⟩ : ∃ rest, env.cellsOf r = r.first :: rest :=
      Grid.cellsOf_eq_cons (h.grid.contains _ hfirst)
    obtain ⟨rest', hrest'⟩ : ∃ rest', env'.cellsOf r = r.first :: rest' :=
      Grid.cellsOf_eq_cons hfirst
    refine (h.gather_cellTexts_filled r).imp fun texts texts' htexts htexts' hfilled => ?_
    rw [hrest] at htexts
    rw [hrest'] at htexts'
    have hhead := cellTexts_of_gather htexts
    have hhead' := cellTexts_of_gather htexts'
    rw [(h.cell_congr r.first).2, hhead'] at hhead
    exact ⟨hfilled, by simpa using hhead.symm⟩
  · -- The range had no cell in the grid, and can have blank ones only.
    have hnone : env'.cellsOf r = [] := Grid.cellsOf_eq_nil hfirst
    have hempty : ∀ c ∈ env.cellsOf r, env.cellTexts c = .ok [""] := by
      intro c hc
      have hnot : ¬ env'.grid.contains c := by
        have hfilter := h.cellsOf_eq r
        rw [hnone] at hfilter
        exact List.filter_eq_nil_iff.mp hfilter.symm c hc
      exact (h.blank_of_not_contains hnot).2
    rw [hnone, gather_cellTexts_of_blank hempty]
    refine ⟨by simp [SameFilled], ?_⟩
    cases (env.cellsOf r).length <;> rfl

/-- Places read as before, up to empty texts. -/
theorem readsAlikeHere (p : Place) : p.ReadsAlikeHere SameButEmpty env env' := by
  cases p with
  | cell c => exact ⟨h.enter c, h.cell_congr c⟩
  | range r => exact ⟨h.gather_cellNumbers_eq r, h.gather_cellTexts_alike r⟩

end GrownFrom

end Surroundings

/-! ## Values after the growth -/

namespace Context

/-- With formula cells only on the path, a blank cell has the empty text for its value. -/
theorem enter_of_blank {ctx : Context} (hctx : ctx.OnFormulas) {c : CellRef}
    (hc : (ctx.grid.text? c).getD "" = "") : ctx.enter c = .ok (.text "") := by
  have hformula : ¬ ctx.grid.holdsFormula c := by
    rw [Grid.holdsFormula_eq, hc]
    decide
  have hpath : c ∉ ctx.path := fun hmem => hformula (hctx c hmem)
  rw [enter_literal hpath hformula, hc]

/-- No cell has another outcome after the growth. -/
theorem enter_grown {ctx : Context} (hctx : ctx.OnFormulas) {g' : Grid}
    (hgrows : ctx.grid.Grows g') (hcountIf : ¬ ctx.grid.Calls .countIf)
    (hsumIf : ¬ ctx.grid.Calls .sumIf) (c : CellRef) :
    (ctx.withGrid g').enter c = ctx.enter c := by
  induction ctx using Context.induction generalizing c with
  | step ctx ih =>
      -- The new cells are blank, so all readings are alike up to empty texts, which only two
      -- functions tell apart.
      refine enter_withGrid SameButEmpty.refl (hgrows.text c) (fun hpath hformula p _ => ?_)
        fun hformula f hf => ?_
      · rintro draws _ rfl
        have hinside : ((ctx.inside c).withDraws draws).OnFormulas := hctx.inside hformula
        have hgrown : (((ctx.inside c).withDraws draws).withGrid g').surroundings.GrownFrom
            ((ctx.inside c).withDraws draws).surroundings :=
          { grid := hgrows
            enter := ih c hpath hformula draws hinside hgrows hcountIf hsumIf
            blank := fun d hd => enter_of_blank hinside hd }
        exact hgrown.readsAlikeHere p
      · refine Builtin.respects_sameButEmpty ?_ ?_
        · rintro rfl
          exact hcountIf ⟨c, hformula, hf⟩
        · rintro rfl
          exact hsumIf ⟨c, hformula, hf⟩

end Context

namespace Grid

/-- If no formula of a grid calls `COUNTIF` or `SUMIF`, then no cell changes its value when the grid
grows by blank rows and columns, one after the other and in any order. -/
theorem settled_grow (g : Grid) (ambient : Ambient) (hcountIf : ¬ g.Calls .countIf)
    (hsumIf : ¬ g.Calls .sumIf) (growths : List Growth) (c : CellRef) :
    ((growths.foldl grow g).context ambient).settled c = (g.context ambient).settled c := by
  have hgrows : g.Grows (growths.foldl grow g) := g.grows_foldl_grow growths
  have hfresh : (g.context ambient).OnFormulas :=
    fun d hd => absurd hd (Context.not_mem_fresh g ambient d)
  have henter : ((g.context ambient).withGrid (growths.foldl grow g)).enter c
      = (g.context ambient).enter c :=
    Context.enter_grown hfresh hgrows hcountIf hsumIf c
  rw [Context.settled_fresh, Context.settled_fresh]
  exact congrArg Context.settle henter

/-- The formulas in the first row refer to cells and ranges beyond the second row and column. `B1`
shows what it showed when a column and a row have been added, so that these are cells of the
grid. -/
theorem settled_grow_past_edge :
    let g := Grid.ofRows [["=SUM(A2:C4)", "=CONCAT(C1,A2:D9)"], ["1", "=B3+A2"]]
    ¬ g.Calls .countIf ∧ ¬ g.Calls .sumIf ∧
      (((([.column, .row] : List Growth).foldl grow g).context .morning).settled ⟨0, 1⟩
        = (g.context .morning).settled ⟨0, 1⟩) := by
  intro g
  have hcountIf : ¬ g.Calls .countIf := not_calls_of_coordinates (by decide +kernel)
  have hsumIf : ¬ g.Calls .sumIf := not_calls_of_coordinates (by decide +kernel)
  exact ⟨hcountIf, hsumIf, settled_grow g .morning hcountIf hsumIf _ _⟩

-- `COUNTIF` can count blank cells, and has more of them to count in a longer range.
example :
    let g := Grid.ofRows [["=COUNTIF(B1:C1,\"\")", ""]]
    (g.context .morning).settled ⟨0, 0⟩ ≠ ((g.grow .column).context .morning).settled ⟨0, 0⟩ := by
  decide +kernel

end Grid
end FormulaTable
