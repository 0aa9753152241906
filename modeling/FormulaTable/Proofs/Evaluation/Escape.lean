import FormulaTable.Proofs.Evaluation.Cycle

/-!
# `FormulaTable.Proofs.Evaluation.Escape`: only circular references leave an evaluation

A function can refuse its arguments, or be called with a wrong number of them, at any depth of any
cell. `Context.escapes_only_circular` says that nothing of this gets out: a formula, a cell or a
list of arguments either has a result, or there is a circular reference, and the cell that it names
was on the path before or holds a formula. The mark of a circular reference is never the value of a
formula, so a cell shows it exactly if its evaluation has failed.

The part about the cell that is named is an induction over contexts
(`Context.mem_path_or_holdsFormula`). A circular reference names a cell of the path at the place
where it is found. The path there consists of the cells that were on it before and of the cells
entered since, and nothing is entered from inside a cell that holds no formula.
-/

set_option autoImplicit false

namespace FormulaTable

namespace Query

variable {α : Type}

/-- A dialogue that never refuses the arguments, whatever the answers are. -/
def NeverRefuses : Query α → Prop
  | .done _ => True
  | .refuse _ => False
  | .numbers _ next => ∀ xs, (next xs).NeverRefuses
  | .texts _ next => ∀ xs, (next xs).NeverRefuses

/-- The plan of such a dialogue never refuses, if the arguments can be read without a refusal. -/
theorem NeverRefuses.plan {q : Query α} (hq : q.NeverRefuses) {arguments : List ReadingPlan}
    (h : ∀ r ∈ arguments, r.numbers.NeverRefuses ∧ r.texts.NeverRefuses) :
    (q.plan arguments).NeverRefuses := by
  have hpicked : ∀ source : Source, ∀ r ∈ source.pick arguments,
      r.numbers.NeverRefuses ∧ r.texts.NeverRefuses := by
    intro source r hr
    obtain ⟨i, -, hi⟩ := Source.mem_pick.mp hr
    exact h r (List.mem_of_getElem? hi)
  -- A refusal is the only step to exclude; after every other one the dialogue goes on.
  induction q with
  | done a => trivial
  | refuse why => exact hq.elim
  | numbers source next ih =>
      have hread : ∀ r ∈ source.pick arguments, r.numbers.NeverRefuses :=
        fun r hr => (hpicked source r hr).1
      exact Plan.EntersOnly.bind (Plan.EntersOnly.gather hread) fun xs _ => ih xs (hq xs)
  | texts source next ih =>
      have hread : ∀ r ∈ source.pick arguments, r.texts.NeverRefuses :=
        fun r hr => (hpicked source r hr).2
      exact Plan.EntersOnly.bind (Plan.EntersOnly.gather hread) fun xs _ => ih xs (hq xs)

end Query

namespace Context

/-! ## The cell that a circular reference names -/

/-- A circular reference names a cell that was on the path, or one that holds a formula. -/
theorem mem_path_or_holdsFormula {ctx : Context} {c met : CellRef}
    (h : ctx.enter c = .error (.circular met)) : met ∈ ctx.path ∨ ctx.grid.holdsFormula met := by
  induction ctx using Context.induction generalizing c with
  | step ctx ih =>
      by_cases hc : c ∈ ctx.path
      · rw [enter_of_mem hc] at h
        obtain rfl : c = met := by simpa using h
        exact Or.inl hc
      by_cases hformula : ctx.grid.holdsFormula c
      · rw [enter_of_not_mem hc] at h
        -- The formula itself never refuses, so a cell inside it has failed.
        obtain hrefused | ⟨draws, d, -, hd⟩ :=
          Plan.error_of_entersOnly (ctx.grid.cellPlan_entersOnly ctx.ambient c) h
        · exact hrefused.elim
        have hinside : met ∈ (ctx.inside c).path ∨ ctx.grid.holdsFormula met :=
          ih c hc hformula draws hd
        rcases hinside with hmem | hmet
        · -- The path inside the cell has one cell more, and that one holds a formula.
          rcases Path.mem_insert.mp hmem with rfl | hmem
          · exact Or.inr hformula
          · exact Or.inl hmem
        · exact Or.inr hmet
      · -- A text that is no formula is its own value.
        rw [enter_literal hc hformula] at h
        simp at h

/-! ## What gets out of an evaluation -/

/-- An outcome is a result, or a circular reference that names a cell of the path or a cell that
holds a formula. -/
def ResultOrCircular {α : Type} (ctx : Context) (outcome : Except Fault α) : Prop :=
  (∃ a, outcome = .ok a) ∨
    ∃ met, outcome = .error (.circular met) ∧ (met ∈ ctx.path ∨ ctx.grid.holdsFormula met)

/-- A cell has a value, or its evaluation comes upon a circular reference. -/
theorem resultOrCircular_enter (ctx : Context) (c : CellRef) :
    ctx.ResultOrCircular (ctx.enter c) := by
  cases henter : ctx.enter c with
  | ok value => exact Or.inl ⟨value, rfl⟩
  | error why =>
      obtain ⟨met, rfl⟩ := exists_of_enter_error henter
      exact Or.inr ⟨met, rfl, mem_path_or_holdsFormula henter⟩

/-- A plan that never refuses can fail only where a cell fails. -/
theorem resultOrCircular_run {α : Type} (ctx : Context) {p : Plan α} (hp : p.NeverRefuses) :
    ctx.ResultOrCircular (p.run ctx.enterAt) := by
  cases hrun : p.run ctx.enterAt with
  | ok a => exact Or.inl ⟨a, rfl⟩
  | error why =>
      obtain hrefused | ⟨draws, c, -, hc⟩ := Plan.error_of_entersOnly hp hrun
      · exact hrefused.elim
      -- The plan fails in the same way as the cell.
      rw [enterAt_eq] at hc
      rcases resultOrCircular_enter (ctx.withDraws draws) c with ⟨value, hvalue⟩ |
        ⟨met, hmet, hwhere⟩
      · rw [hvalue] at hc
        cases hc
      · rw [hmet] at hc
        obtain rfl : Fault.circular met = why := by simpa using hc
        exact Or.inr ⟨met, rfl, hwhere⟩

/-- A formula has a value, or its evaluation comes upon a circular reference. -/
theorem resultOrCircular_evaluate (ctx : Context) (formula : String) :
    ctx.ResultOrCircular (ctx.evaluate formula) := by
  rw [evaluate_eq_run]
  have hplan := Expr.plan_entersOnly ctx.grid ctx.ambient (Expr.ofFormula formula)
  exact resultOrCircular_run ctx (Plan.EntersOnly.neverRefuses hplan)

/-- A dialogue that never refuses has a result, or it comes upon a circular reference. -/
theorem resultOrCircular_ask {α : Type} (ctx : Context) (arguments : List String) {q : Query α}
    (hq : q.NeverRefuses) : ctx.ResultOrCircular (ctx.ask arguments q) := by
  rw [ask_eq_run]
  refine resultOrCircular_run ctx (hq.plan fun r hr => ?_)
  obtain ⟨here, a, -, rfl⟩ := Arg.exists_of_mem_plans ctx.grid hr
  have hnumbers := Arg.readingPlan_entersOnly ctx.grid here a .numbers
  have htexts := Arg.readingPlan_entersOnly ctx.grid here a .texts
  exact ⟨Plan.EntersOnly.neverRefuses hnumbers, Plan.EntersOnly.neverRefuses htexts⟩

/-- No formula has the mark of a circular reference for its value. -/
theorem evaluate_ne_circular (ctx : Context) (formula : String) :
    ctx.evaluate formula ≠ .ok (.sentinel .circular) := by
  intro hvalue
  rw [evaluate_eq_run] at hvalue
  have hplan := Expr.plan_entersOnly ctx.grid ctx.ambient (Expr.ofFormula formula)
  exact Plan.ok_of_entersOnly hplan hvalue rfl

/-- A cell shows the mark of a failed function only as the value of its formula, never in place of a
fault. -/
theorem settled_eq_failed {ctx : Context} {c : CellRef} :
    ctx.settled c = .sentinel .failed ↔ ctx.enter c = .ok (.sentinel .failed) := by
  rw [settled, ← Grid.holdsFormula_eq]
  by_cases hformula : ctx.grid.holdsFormula c
  · rw [if_pos hformula]
    rcases resultOrCircular_enter ctx c with ⟨value, hvalue⟩ | ⟨met, hmet, -⟩
    · rw [hvalue]
      show value = .sentinel .failed ↔ _
      simp
    · rw [hmet]
      simp [settle]
  · rw [if_neg hformula]
    by_cases hc : c ∈ ctx.path
    · simp [enter_of_mem hc]
    · simp [enter_literal hc hformula]

/-- Circular references are the only faults that get out of an evaluation, and the cell that one
names was on the path or holds a formula. This is so for formulas, for cells, and for arguments,
read all together or one by one. No formula has the mark of a circular reference as its value. So a
cell on its own shows that mark exactly if its evaluation came upon a circular reference, and it
shows the mark of a failed function exactly if its formula has that value. -/
theorem escapes_only_circular (ctx : Context) :
    (∀ formula, ctx.ResultOrCircular (ctx.evaluate formula)) ∧
    (∀ cell, ctx.ResultOrCircular (ctx.enter cell)) ∧
    (∀ arguments, ctx.ResultOrCircular (ctx.ask arguments .allNumbers)) ∧
    (∀ arguments, ctx.ResultOrCircular (ctx.ask arguments .allTexts)) ∧
    (∀ arguments index, ctx.ResultOrCircular (ctx.ask arguments (.number? index))) ∧
    (∀ arguments index, ctx.ResultOrCircular (ctx.ask arguments (.number index))) ∧
    (∀ arguments index, ctx.ResultOrCircular (ctx.ask arguments (.text index))) ∧
    (∀ formula, ctx.evaluate formula ≠ .ok (.sentinel .circular)) ∧
    (∀ cell, (ctx.grid.context ctx.ambient).settled cell = .sentinel .circular ↔
      ∃ met, (ctx.grid.context ctx.ambient).enter cell = .error (.circular met)) ∧
    (∀ cell, ctx.settled cell = .sentinel .failed ↔ ctx.enter cell = .ok (.sentinel .failed)) := by
  refine ⟨resultOrCircular_evaluate ctx, resultOrCircular_enter ctx, ?_, ?_, ?_, ?_, ?_,
    evaluate_ne_circular ctx, fun cell => settled_eq_circular, fun cell => settled_eq_failed⟩
  · -- What remains are questions, and a question never refuses an answer.
    intro arguments
    exact resultOrCircular_ask ctx arguments fun _ => trivial
  · intro arguments
    exact resultOrCircular_ask ctx arguments fun _ => trivial
  · intro arguments index
    exact resultOrCircular_ask ctx arguments fun _ => trivial
  · intro arguments index
    exact resultOrCircular_ask ctx arguments fun _ => trivial
  · intro arguments index
    exact resultOrCircular_ask ctx arguments fun _ => trivial

end Context
end FormulaTable
