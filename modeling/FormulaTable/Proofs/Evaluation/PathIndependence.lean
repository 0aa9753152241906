import FormulaTable.Proofs.Evaluation.Enter

/-!
# `FormulaTable.Proofs.Evaluation.PathIndependence`: the path never decides a value

The path of cells being evaluated is threaded through the whole evaluation, but it may only refuse.
`Context.outcome_of_longer_path` states this for two paths, one with all cells of the other. Under
the longer path a formula, or a list of arguments read as numbers or as texts, has the outcome that
it has under the shorter one, or else a circular reference. So what one cell reads of another is
what the other shows on its own.

The two evaluations are compared by `AgreesOrCircular`. A plan keeps it (`Plan.run_agrees`): both
sides go through the same tree, and the first circular reference ends the side that meets it. Then
`Context.enter_agrees` is an induction over the contexts with the longer path. A cell off the longer
path is off the shorter one too, so both sides follow its plan; a cell on the longer path is a
circular reference there, whatever it is on the other side.

Both sides see the same moment, and both draw the same number at the same place. Without a call of
`RAND` or `RANDBETWEEN` no number is used.
-/

set_option autoImplicit false

namespace FormulaTable

/-- A moment to evaluate at, for tables that do not ask for it. -/
def Ambient.morning : Ambient where
  now := {
    date := { year := 2024, month := 3, day := 15, year_mem := by decide, day_mem := by decide }
    hour := 9
    minute := 30
    second := 5
    hour_lt := by decide
    minute_lt := by decide
    second_lt := by decide }
  draw := 0

/-- Two outcomes agree, unless the first is a circular reference. -/
def AgreesOrCircular {α : Type} (x y : Except Fault α) : Prop :=
  x = y ∨ ∃ c, x = .error (.circular c)

/-- An outcome that is no fault is the outcome on the other side. -/
theorem AgreesOrCircular.ok {α : Type} {x y : Except Fault α} (h : AgreesOrCircular x y) {a : α}
    (hx : x = .ok a) : y = .ok a := by
  rcases h with rfl | ⟨c, rfl⟩
  · exact hx
  · simp at hx

/-- Evaluations that agree on the cells agree on the outcome. -/
theorem Plan.run_agrees {α : Type} {visit visit' : Draws → CellRef → Except Fault Value}
    (h : ∀ draws c, AgreesOrCircular (visit draws c) (visit' draws c)) (p : Plan α) :
    AgreesOrCircular (p.run visit) (p.run visit') := by
  induction p with
  | done a => exact Or.inl rfl
  | refuse why => exact Or.inl rfl
  | enter draws cell next ih =>
      rw [run_enter, run_enter]
      rcases h draws cell with hcell | ⟨c, hcell⟩
      · -- The same value on both sides, so both go on with the same plan.
        rw [← hcell]
        cases visit draws cell with
        | error why => exact Or.inl rfl
        | ok value => exact ih value
      · rw [hcell]
        exact Or.inr ⟨c, rfl⟩

namespace Context

/-- A context of the same table and the same world, with all cells of another on its path. -/
structure Extends (wider ctx : Context) : Prop where
  grid : wider.grid = ctx.grid
  ambient : wider.ambient = ctx.ambient
  path : ∀ c ∈ ctx.path, c ∈ wider.path

/-- With other draws, both contexts have the paths they had. -/
theorem Extends.withDraws {wider ctx : Context} (h : wider.Extends ctx) (draws : Draws) :
    (wider.withDraws draws).Extends (ctx.withDraws draws) where
  grid := h.grid
  ambient := congrArg (fun ambient : Ambient => { ambient with draw := draws }) h.ambient
  path := h.path

/-- With a cell put on both paths, the longer one is still the longer one. -/
theorem Extends.inside {wider ctx : Context} (h : wider.Extends ctx) (cell : CellRef) :
    (wider.inside cell).Extends (ctx.inside cell) where
  grid := h.grid
  ambient := congrArg (Ambient.toward · (.inside cell)) h.ambient
  path c hc := Path.mem_insert.mpr ((Path.mem_insert.mp hc).imp_right (h.path c))

/-- Under a longer path a cell has the same value, or it is a circular reference. -/
theorem enter_agrees {wider ctx : Context} (h : wider.Extends ctx) (cell : CellRef) :
    AgreesOrCircular (wider.enter cell) (ctx.enter cell) := by
  induction wider using Context.induction generalizing ctx cell with
  | step wider ih =>
      by_cases hwider : cell ∈ wider.path
      · -- Whatever the shorter path makes of the cell, the longer one refuses it.
        exact Or.inr ⟨cell, enter_of_mem hwider⟩
      have hcell : cell ∉ ctx.path := fun hmem => hwider (h.path cell hmem)
      rw [enter_of_not_mem hwider, enter_of_not_mem hcell, ← h.grid, ← h.ambient, Grid.cellPlan]
      by_cases hformula : wider.grid.holdsFormula cell
      · rw [if_pos hformula]
        -- Inside the cell, both sides see the same from every place of its formula.
        refine Plan.run_agrees (fun draws => ?_) _
        exact ih cell hwider hformula draws ((h.inside cell).withDraws draws)
      · rw [if_neg hformula]
        exact Or.inl rfl

/-- Under a longer path a cell has the same value from everywhere, or it is a circular reference. -/
theorem enterAt_agrees {wider ctx : Context} (h : wider.Extends ctx) (draws : Draws)
    (cell : CellRef) : AgreesOrCircular (wider.enterAt draws cell) (ctx.enterAt draws cell) :=
  enter_agrees (h.withDraws draws) cell

/-- Under a longer path a formula has the same outcome, or it is a circular reference. -/
theorem evaluate_agrees {wider ctx : Context} (h : wider.Extends ctx) (formula : String) :
    AgreesOrCircular (wider.evaluate formula) (ctx.evaluate formula) := by
  rw [evaluate_eq_run, evaluate_eq_run, h.grid, h.ambient]
  exact Plan.run_agrees (enterAt_agrees h) _

/-- Under a longer path a dialogue with arguments has the same outcome, or it is a circular
reference. -/
theorem ask_agrees {α : Type} {wider ctx : Context} (h : wider.Extends ctx)
    (arguments : List String) (q : Query α) :
    AgreesOrCircular (wider.ask arguments q) (ctx.ask arguments q) := by
  rw [ask_eq_run, ask_eq_run, h.grid, h.ambient]
  exact Plan.run_agrees (enterAt_agrees h) _

/-- Every context extends the fresh one of its table. -/
theorem extends_fresh (ctx : Context) : ctx.Extends (ctx.grid.context ctx.ambient) where
  grid := rfl
  ambient := rfl
  path c hc := absurd hc (not_mem_fresh ctx.grid ctx.ambient c)

/-! ## What one cell reads of another -/

/-- A reading that succeeds has entered the cell. -/
theorem exists_of_map_ok {α β : Type} {f : α → β} {outcome : Except Fault α} {b : β}
    (h : f <$> outcome = .ok b) : ∃ a, outcome = .ok a ∧ f a = b := by
  cases outcome with
  | error why => cases h
  | ok a => exact ⟨a, rfl, Except.ok.inj h⟩

/-- Outcomes have no decidable equality, but the values among them do. -/
theorem eq_ok_of_toOption {α : Type} {outcome : Except Fault α} {value : α}
    (h : outcome.toOption = some value) : outcome = .ok value := by
  cases outcome with
  | error why => simp [Except.toOption] at h
  | ok found =>
      obtain rfl : found = value := by simpa [Except.toOption] using h
      rfl

/-- A cell that has a value shows it. -/
theorem settled_of_enter {ctx : Context} {cell : CellRef} {value : Value}
    (h : ctx.enter cell = .ok value) :
    (ctx.grid.context ctx.ambient).settled cell = value := by
  rw [settled_fresh, (enter_agrees ctx.extends_fresh cell).ok h]
  rfl

/-- The value read of a cell is the value that the cell shows. -/
theorem settled_of_cellValue? {ctx : Context} {cell : CellRef} {value : Value}
    (h : ctx.surroundings.cellValue? cell = .ok (some value)) :
    (ctx.grid.context ctx.ambient).settled cell = value := by
  rw [Surroundings.cellValue?] at h
  cases hraw : ctx.grid.text? cell with
  | none => simp [hraw] at h
  | some raw =>
      by_cases hformula : isFormula raw
      · have hread : some <$> ctx.enter cell = .ok (some value) := by
          simpa [hraw, hformula] using h
        obtain ⟨found, hentered, hfound⟩ := exists_of_map_ok hread
        rw [settled_of_enter hentered]
        exact Option.some.inj hfound
      · -- A text that is no formula is read as it stands, and shown so.
        obtain rfl : Value.text raw = value := by simpa [hraw, hformula] using h
        simp [settled, Grid.context, hraw, hformula]

/-- The operand read of a cell is the number of the value that the cell shows, or zero. -/
theorem settled_of_cellNumber {ctx : Context} {cell : CellRef} {n : Float}
    (h : ctx.surroundings.cellNumber cell = .ok n) :
    ((ctx.grid.context ctx.ambient).settled cell).number?.getD 0 = n := by
  have hread : (fun value : Value => value.number?.getD 0) <$> ctx.enter cell = .ok n := h
  obtain ⟨value, hentered, hn⟩ := exists_of_map_ok hread
  rw [settled_of_enter hentered]
  exact hn

/-- The text read of a cell is the text that the cell shows. -/
theorem displayText_of_cellText {ctx : Context} {cell : CellRef} {text : String}
    (h : ctx.surroundings.cellText cell = .ok text) :
    ctx.grid.displayText ctx.ambient cell = text := by
  rw [Surroundings.cellText] at h
  rw [Grid.displayText]
  cases hraw : ctx.grid.text? cell with
  | none =>
      obtain rfl : "" = text := by simpa [hraw] using h
      simp [settled, Grid.context, hraw, isFormula, Value.display]
  | some raw =>
      have hread : Value.display <$> ctx.enter cell = .ok text := by
        simpa [hraw] using h
      obtain ⟨value, hentered, htext⟩ := exists_of_map_ok hread
      rw [settled_of_enter hentered]
      exact htext

/-! ## Longer paths -/

/-- A longer path may refuse, but it never changes a value. What succeeds under the longer path
succeeds under the shorter one, with the same result: formulas, and arguments read as numbers or as
texts. Any other difference is a circular reference under the longer path, for these and for every
other dialogue with arguments. And what is read of a cell, under any path, is what the cell shows on
its own. -/
theorem outcome_of_longer_path {ctx wider : Context} (h : wider.Extends ctx) :
    (∀ formula value, wider.evaluate formula = .ok value → ctx.evaluate formula = .ok value) ∧
    (∀ arguments xs, wider.ask arguments .allNumbers = .ok xs →
      ctx.ask arguments .allNumbers = .ok xs) ∧
    (∀ arguments texts, wider.ask arguments .allTexts = .ok texts →
      ctx.ask arguments .allTexts = .ok texts) ∧
    (∀ formula, AgreesOrCircular (wider.evaluate formula) (ctx.evaluate formula)) ∧
    (∀ (α : Type) arguments (q : Query α),
      AgreesOrCircular (wider.ask arguments q) (ctx.ask arguments q)) ∧
    (∀ cell value, wider.surroundings.cellValue? cell = .ok (some value) →
      (ctx.grid.context ctx.ambient).settled cell = value) ∧
    (∀ cell n, wider.surroundings.cellNumber cell = .ok n →
      ((ctx.grid.context ctx.ambient).settled cell).number?.getD 0 = n) ∧
    (∀ cell text, wider.surroundings.cellText cell = .ok text →
      ctx.grid.displayText ctx.ambient cell = text) := by
  -- Where a cell is read by itself, the value it has outside of all cells does not depend on either
  -- path.
  refine ⟨?_, ?_, ?_, evaluate_agrees h, fun α => ask_agrees h, ?_, ?_, ?_⟩
  · intro formula value hvalue
    exact (evaluate_agrees h formula).ok hvalue
  · intro arguments xs hxs
    exact (ask_agrees h arguments .allNumbers).ok hxs
  · intro arguments texts htexts
    exact (ask_agrees h arguments .allTexts).ok htexts
  · intro cell value hvalue
    rw [← h.grid, ← h.ambient]
    exact settled_of_cellValue? hvalue
  · intro cell n hn
    rw [← h.grid, ← h.ambient]
    exact settled_of_cellNumber hn
  · intro cell text htext
    rw [← h.grid, ← h.ambient]
    exact displayText_of_cellText htext

/-- Inside `A1`, and so outside as well, a formula that reads `B1` has its text as the value. -/
theorem value_inside_and_outside :
    let g := Grid.ofRows [["=CONCAT(B1)", "x"]]
    (((g.context .morning).inside ⟨0, 0⟩).withDraws 0).evaluate "=CONCAT(B1)" = .ok (.text "x") ∧
      (g.context .morning).evaluate "=CONCAT(B1)" = .ok (.text "x") := by
  intro g
  have hinside : (((g.context .morning).inside ⟨0, 0⟩).withDraws 0).evaluate "=CONCAT(B1)"
      = .ok (.text "x") :=
    eq_ok_of_toOption (by decide +kernel)
  have hlonger : (((g.context .morning).inside ⟨0, 0⟩).withDraws 0).Extends (g.context .morning) :=
    extends_fresh _
  obtain ⟨hvalue, -⟩ := outcome_of_longer_path hlonger
  exact ⟨hinside, hvalue _ _ hinside⟩

end Context
end FormulaTable
