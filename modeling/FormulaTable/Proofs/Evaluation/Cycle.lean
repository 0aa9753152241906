import FormulaTable.Proofs.Evaluation.PathIndependence
import Mathlib.Logic.Relation

/-!
# `FormulaTable.Proofs.Evaluation.Cycle`: circular references are cycles of references

A grid is a graph: a formula cell needs the formula cells that its formula refers to
(`Grid.Needs`). A cell is in trouble if a cycle of this graph can be reached from it
(`Grid.ReachesCycle`). `Grid.circular_iff_reachesCycle` compares the graph with what cells show.

* A cell that shows a circular reference reaches a cycle. So a grid without cycles shows none,
  however often its cells are shared. `Context.path_or_cycle_of_circular` has the invariant: a
  circular reference found somewhere below a cell is about a cell of the path, to which the
  references lead back, unless they lead to a cycle.
* In a grid without `IF`, a cell that reaches a cycle shows a circular reference. From such a cell
  one reference leads to another such cell, and every evaluation enters it
  (`Context.not_ok_of_reachesCycle`).

`IF` evaluates the branch that its condition selects, so it may stay clear of a cycle.
-/

set_option autoImplicit false

namespace FormulaTable

open Relation (ReflTransGen TransGen)

/-! ## The graph of references -/

namespace Grid

/-- A formula cell refers to another one. -/
def Needs (g : Grid) (x y : CellRef) : Prop :=
  g.holdsFormula x ∧ g.holdsFormula y ∧ y ∈ (g.formulaAt x).references g

/-- References lead from a cell to a cell that needs itself. -/
def ReachesCycle (g : Grid) (c : CellRef) : Prop :=
  ∃ x, ReflTransGen g.Needs c x ∧ TransGen g.Needs x x

variable {g : Grid} {x y : CellRef}

/-- What needs a cell that reaches a cycle reaches the cycle too. -/
theorem ReachesCycle.head (h : g.Needs x y) (hy : g.ReachesCycle y) : g.ReachesCycle x := by
  obtain ⟨z, hz, hcycle⟩ := hy
  exact ⟨z, hz.head h, hcycle⟩

/-- A cell that reaches a cycle needs another such cell. -/
theorem ReachesCycle.exists_needs (h : g.ReachesCycle x) :
    ∃ y, g.Needs x y ∧ g.ReachesCycle y := by
  obtain ⟨z, hz, hcycle⟩ := h
  rcases hz.cases_head with rfl | ⟨y, hxy, hyz⟩
  · -- The cell is on the cycle, and so is the next one.
    obtain ⟨y, hxy, hyx⟩ := TransGen.head'_iff.mp hcycle
    exact ⟨y, hxy, x, hyx, hcycle⟩
  · exact ⟨y, hxy, z, hyz, hcycle⟩

/-- Whatever the values of other cells are, a cell enters only cells that its formula refers to,
never refuses, and never has the mark of a circular reference as its value. -/
theorem cellPlan_entersOnly (g : Grid) (ambient : Ambient) (c : CellRef) :
    (g.cellPlan ambient c).EntersOnly
      (fun d => g.holdsFormula c ∧ d ∈ (g.formulaAt c).references g) (fun _ => False)
      (· ≠ .sentinel .circular) := by
  rw [cellPlan]
  by_cases hc : g.holdsFormula c
  · rw [if_pos hc]
    have hplan := Expr.plan_entersOnly g (ambient.toward (.inside c)) (g.formulaAt c)
    exact hplan.mono (fun d hd => ⟨hc, hd⟩) (fun _ => id) fun _ => id
  · rw [if_neg hc]
    show Value.text ((g.text? c).getD "") ≠ .sentinel .circular
    simp

end Grid

namespace Context

/-! ## A circular reference comes from a cycle -/

/-- A path of formula cells only. Every path that an evaluation takes from a fresh context is
one. -/
def OnFormulas (ctx : Context) : Prop :=
  ∀ c ∈ ctx.path, ctx.grid.holdsFormula c

/-- Inside a formula cell, the path has formula cells only. -/
theorem OnFormulas.inside {ctx : Context} (h : ctx.OnFormulas) {c : CellRef}
    (hc : ctx.grid.holdsFormula c) : (ctx.inside c).OnFormulas := by
  intro d hd
  rcases Path.mem_insert.mp hd with rfl | hd
  · exact hc
  · exact h d hd

/-- What fails is a formula. A text has its value, and it is never on the path. -/
theorem holdsFormula_of_enter_error {ctx : Context} (h : ctx.OnFormulas) {c : CellRef}
    {why : Fault} (herror : ctx.enter c = .error why) : ctx.grid.holdsFormula c := by
  by_cases hc : c ∈ ctx.path
  · exact h c hc
  by_cases hformula : ctx.grid.holdsFormula c
  · exact hformula
  · simp [enter_literal hc hformula] at herror

/-- If a circular reference is found below a cell, then references lead from the cell back to the
path, where the cell found stands, or they lead to a cycle. -/
theorem path_or_cycle_of_circular {ctx : Context} (h : ctx.OnFormulas) {c met : CellRef}
    (hcircular : ctx.enter c = .error (.circular met)) :
    (met ∈ ctx.path ∧ ReflTransGen ctx.grid.Needs c met) ∨ ctx.grid.ReachesCycle c := by
  induction ctx using Context.induction generalizing c with
  | step ctx ih =>
      by_cases hc : c ∈ ctx.path
      · rw [enter_of_mem hc] at hcircular
        obtain rfl : c = met := by simpa using hcircular
        exact Or.inl ⟨hc, .refl⟩
      have hformula := holdsFormula_of_enter_error h hcircular
      rw [enter_of_not_mem hc] at hcircular
      obtain hrefused | ⟨draws, d, ⟨-, hd⟩, herror⟩ :=
        Plan.error_of_entersOnly (ctx.grid.cellPlan_entersOnly ctx.ambient c) hcircular
      · exact hrefused.elim
      -- The cell has failed because a cell that it refers to has.
      have hinside : ((ctx.inside c).withDraws draws).OnFormulas := h.inside hformula
      have hneeds : ctx.grid.Needs c d :=
        ⟨hformula, holdsFormula_of_enter_error hinside herror, hd⟩
      rcases ih c hc hformula draws hinside herror with ⟨hmet, hreach⟩ | hcycle
      · rcases Path.mem_insert.mp hmet with rfl | hmet
        · -- The references lead back to the cell itself.
          exact Or.inr ⟨met, .refl, .head' hneeds hreach⟩
        · exact Or.inl ⟨hmet, hreach.head hneeds⟩
      · exact Or.inr (hcycle.head hneeds)

/-- No value is the mark of a circular reference, which is for what has no value. -/
theorem enter_ne_circular {ctx : Context} {c : CellRef} :
    ctx.enter c ≠ .ok (.sentinel .circular) := by
  intro hvalue
  rw [enter_of_not_mem (not_mem_of_enter_ok hvalue)] at hvalue
  exact Plan.ok_of_entersOnly (ctx.grid.cellPlan_entersOnly ctx.ambient c) hvalue rfl

/-- The mark of a circular reference is shown for one, if it is not a value. -/
theorem settle_eq_circular {outcome : Except Fault Value}
    (h : outcome ≠ .ok (.sentinel .circular)) :
    settle outcome = .sentinel .circular ↔ ∃ met, outcome = .error (.circular met) := by
  cases outcome with
  | ok value =>
      have hvalue : value ≠ .sentinel .circular := fun heq => h (congrArg Except.ok heq)
      simp [settle, hvalue]
  | error why => cases why <;> simp [settle]

/-- A cell shows a circular reference only if its evaluation found one. -/
theorem settled_eq_circular {g : Grid} {ambient : Ambient} {c : CellRef} :
    (g.context ambient).settled c = .sentinel .circular ↔
      ∃ met, (g.context ambient).enter c = .error (.circular met) := by
  rw [settled_fresh]
  exact settle_eq_circular enter_ne_circular

/-! ## Without `IF`, a cycle comes to a circular reference -/

/-- A cell that reaches a cycle never has a value, on whatever path it is entered. -/
theorem not_ok_of_reachesCycle {ctx : Context}
    (hif : ∀ x, ctx.grid.holdsFormula x → (ctx.grid.formulaAt x).calls .ifElse = false)
    {c : CellRef} (h : ctx.grid.ReachesCycle c) (value : Value) : ctx.enter c ≠ .ok value := by
  induction ctx using Context.induction generalizing c value with
  | step ctx ih =>
      intro hvalue
      have hc : c ∉ ctx.path := not_mem_of_enter_ok hvalue
      -- The next cell on the way must be entered, and it has no value by the hypothesis.
      obtain ⟨d, ⟨hformula, hformula', hd⟩, hcycle⟩ := h.exists_needs
      rw [enter_of_not_mem hc, Grid.cellPlan, if_pos hformula] at hvalue
      have hmust := Expr.plan_mustEnter ctx.grid hformula' (ctx.ambient.toward (.inside c)) _
        (hif c hformula) hd
      obtain ⟨draws, found, hfound⟩ := Plan.ok_of_mustEnter hmust hvalue
      exact ih c hc hformula draws hif hcycle found hfound

end Context

/-! ## Exactness -/

/-- Circular references are exactly the cycles of references, as far as evaluation goes through all
references. A cell that shows one reaches a cycle, so a grid without cycles shows none. And without
a call of `IF` in the grid, every cell that reaches a cycle shows one. -/
theorem Grid.circular_iff_reachesCycle (g : Grid) (ambient : Ambient) :
    (∀ c, (g.context ambient).settled c = .sentinel .circular → g.ReachesCycle c) ∧
    ((∀ x, ¬ TransGen g.Needs x x) →
      ∀ c, (g.context ambient).settled c ≠ .sentinel .circular) ∧
    ((∀ x, g.holdsFormula x → (g.formulaAt x).calls .ifElse = false) →
      ∀ c, (g.context ambient).settled c = .sentinel .circular ↔ g.ReachesCycle c) := by
  have hsound : ∀ c, (g.context ambient).settled c = .sentinel .circular → g.ReachesCycle c := by
    intro c hc
    obtain ⟨met, hmet⟩ := Context.settled_eq_circular.mp hc
    have hfresh : (g.context ambient).OnFormulas :=
      fun d hd => absurd hd (Context.not_mem_fresh g ambient d)
    -- A circular reference is met on the path or leads to a cycle, and a fresh path is empty.
    rcases Context.path_or_cycle_of_circular hfresh hmet with ⟨hmem, -⟩ | hcycle
    · exact absurd hmem (Context.not_mem_fresh g ambient met)
    · exact hcycle
  refine ⟨hsound, ?_, ?_⟩
  · intro hacyclic c hc
    obtain ⟨x, -, hcycle⟩ := hsound c hc
    exact hacyclic x hcycle
  · intro hif c
    refine ⟨hsound c, fun hcycle => Context.settled_eq_circular.mpr ?_⟩
    -- Without conditionals every cell that is needed is entered, so there is no value.
    cases henter : (g.context ambient).enter c with
    | ok value => exact absurd henter (Context.not_ok_of_reachesCycle hif hcycle value)
    | error why =>
        obtain ⟨met, rfl⟩ := Context.exists_of_enter_error henter
        exact ⟨met, rfl⟩

/-! ## Two tables -/

namespace Grid

/-- A formula cell is one of the cells of the grid. -/
theorem mem_coordinates_of_holdsFormula {g : Grid} {c : CellRef} (h : g.holdsFormula c) :
    c ∈ g.coordinates := by
  cases hraw : g.text? c with
  | none => simp [holdsFormula, hraw] at h
  | some raw => exact mem_coordinates_of_text? hraw

/-- If all references of a grid lead to cells of a higher rank, then it has no cycles. -/
theorem acyclic_of_rank {g : Grid} (rank : CellRef → Nat)
    (h : ∀ x ∈ g.coordinates, ∀ y ∈ (g.formulaAt x).references g, rank x < rank y) (x : CellRef) :
    ¬ TransGen g.Needs x x := by
  have hneeds : ∀ x y, g.Needs x y → rank x < rank y :=
    fun x y hxy => h x (mem_coordinates_of_holdsFormula hxy.1) y hxy.2.2
  have hlt : ∀ y, TransGen g.Needs x y → rank x < rank y := by
    intro y hy
    induction hy with
    | single hxy => exact hneeds _ _ hxy
    | tail _ hyz ih => exact Nat.lt_trans ih (hneeds _ _ hyz)
  exact fun hcycle => Nat.lt_irrefl _ (hlt x hcycle)

/-- A cell shared by two others is no cycle, and two cells that need each other are one. -/
theorem circular_of_mutual_not_of_shared :
    let shared := Grid.ofRows [["=CONCAT(B1:C1)", "=CONCAT(D1)", "=D1", "=PI()"]]
    let loop := Grid.ofRows [["=B1", "=A1"]]
    (∀ x, ¬ TransGen shared.Needs x x) ∧
      (shared.context .morning).settled ⟨0, 0⟩ ≠ .sentinel .circular ∧
      (∀ x, loop.holdsFormula x → (loop.formulaAt x).calls .ifElse = false) ∧
      loop.ReachesCycle ⟨0, 0⟩ ∧
      (loop.context .morning).settled ⟨0, 0⟩ = .sentinel .circular := by
  intro shared loop
  -- Every cell needs cells to its right only.
  have hacyclic : ∀ x, ¬ TransGen shared.Needs x x :=
    acyclic_of_rank CellRef.col (by decide +kernel)
  have hif : ∀ x, loop.holdsFormula x → (loop.formulaAt x).calls .ifElse = false := by
    intro x hx
    have hall : ∀ x ∈ loop.coordinates, (loop.formulaAt x).calls .ifElse = false := by
      decide +kernel
    exact hall x (mem_coordinates_of_holdsFormula hx)
  have hright : loop.Needs ⟨0, 0⟩ ⟨0, 1⟩ := by
    refine ⟨by decide, by decide, ?_⟩
    decide +kernel
  have hleft : loop.Needs ⟨0, 1⟩ ⟨0, 0⟩ := by
    refine ⟨by decide, by decide, ?_⟩
    decide +kernel
  have hcycle : loop.ReachesCycle ⟨0, 0⟩ := ⟨⟨0, 0⟩, .refl, .head hright (.single hleft)⟩
  obtain ⟨-, hnone, -⟩ := circular_iff_reachesCycle shared .morning
  obtain ⟨-, -, hexact⟩ := circular_iff_reachesCycle loop .morning
  exact ⟨hacyclic, hnone hacyclic ⟨0, 0⟩, hif, hcycle, (hexact hif ⟨0, 0⟩).mpr hcycle⟩

end Grid

end FormulaTable
