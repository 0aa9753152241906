import FormulaTable.Proofs.Evaluation.Enter

/-!
# `FormulaTable.Proofs.Evaluation.Machine`: evaluation ends, and how deep it descends

`Context.enter` is a recursive function, so it does not show how it gets from cell to cell. The
machine of this file does. It follows the plan of a formula with `Context.descend`; where the plan
enters a cell, the machine puts a frame on its stack, follows the plan of the cell, and takes the
frame off again when it has the value. The stack is the chain of nested descents, the last one
first.

`Machine.halts_with_bounded_descent` says two things about every context and every formula:

* After finitely many steps the machine halts, with the value that `Context.evaluate` gives.
* At every moment the cells on the stack are distinct, none of them was on the path before, and all
  but the last one entered are formula cells. So there are at most as many as there are formula
  cells off the path, and one more.

The first is an induction over contexts (`Machine.reaches_run`). The second is an invariant of the
machine (`Machine.Invariant`), kept by every step. A cell that is no formula is only ever on top,
since its plan is done at once.
-/

set_option autoImplicit false

namespace FormulaTable

/-- A cell that has been entered and not yet left, with the draws of the place from which it was
entered, and with what is to be done with its value. -/
structure Frame where
  draws : Draws
  cell : CellRef
  next : Value → Plan Value

/-- A state of the evaluation of a formula. -/
inductive Machine where
  /-- The plan to follow, and the cells entered, the last one first. -/
  | running (plan : Plan Value) (frames : List Frame)
  | halted (outcome : Except Fault Value)

namespace Machine

/-- The context inside the cells of a stack. -/
def within (ctx : Context) : List Frame → Context
  | [] => ctx
  | frame :: frames => ((within ctx frames).withDraws frame.draws).inside frame.cell

/-- The machine at the beginning of a formula. -/
def start (ctx : Context) (formula : String) : Machine :=
  .running ((Expr.ofFormula formula).plan ctx.grid ctx.ambient) []

/-- One step of the evaluation. -/
def step (ctx : Context) : Machine → Machine
  | .halted outcome => .halted outcome
  | .running (.refuse why) _ => .halted (.error why)
  | .running (.done value) [] => .halted (.ok value)
  | .running (.done value) (frame :: frames) => .running (frame.next value) frames
  | .running (.enter draws cell next) frames =>
    match ((within ctx frames).withDraws draws).descend cell with
    | .error why => .halted (.error why)
    | .ok _ => .running (ctx.grid.cellPlan (ctx.withDraws draws).ambient cell)
        ({ draws, cell, next } :: frames)

/-- Several steps of the evaluation. -/
def run (ctx : Context) : Nat → Machine → Machine
  | 0, machine => machine
  | n + 1, machine => run ctx n (step ctx machine)

/-- The cells that have been entered and not yet left, the last one first. -/
def chain : Machine → List CellRef
  | .running _ frames => frames.map Frame.cell
  | .halted _ => []

variable {ctx : Context}

/-- The cells of a stack belong to one grid. -/
@[simp] theorem within_grid (frames : List Frame) : (within ctx frames).grid = ctx.grid := by
  induction frames with
  | nil => rfl
  | cons frame frames ih => exact ih

/-- Inside the cells of a stack the clock is the same, so only the draws of a place matter there. -/
theorem within_withDraws_ambient (frames : List Frame) (draws : Draws) :
    ((within ctx frames).withDraws draws).ambient = (ctx.withDraws draws).ambient := by
  have hnow : (within ctx frames).ambient.now = ctx.ambient.now := by
    induction frames with
    | nil => rfl
    | cons frame frames ih => exact ih
  show Ambient.mk (within ctx frames).ambient.now draws = Ambient.mk ctx.ambient.now draws
  rw [hnow]

/-- The path consists of the cells on the stack and those that were on it before. -/
theorem mem_within_path {frames : List Frame} {c : CellRef} :
    c ∈ (within ctx frames).path ↔ c ∈ frames.map Frame.cell ∨ c ∈ ctx.path := by
  induction frames with
  | nil => simp [within]
  | cons frame frames ih =>
      show c ∈ (within ctx frames).path.insert frame.cell ↔ _
      rw [Path.mem_insert, ih, List.map_cons, List.mem_cons, or_assoc]

section
variable {draws : Draws} {cell : CellRef} {next : Value → Plan Value} {frames : List Frame}

/-- Entering a cell on the path ends the evaluation. -/
theorem step_enter_of_mem (h : cell ∈ (within ctx frames).path) :
    step ctx (.running (.enter draws cell next) frames) = .halted (.error (.circular cell)) := by
  have hpath : cell ∈ ((within ctx frames).withDraws draws).path := h
  rw [step, Context.descend, if_pos hpath]

/-- Entering a cell off the path puts a frame on the stack. -/
theorem step_enter_of_not_mem (h : cell ∉ (within ctx frames).path) :
    step ctx (.running (.enter draws cell next) frames)
      = .running (ctx.grid.cellPlan (ctx.withDraws draws).ambient cell)
          ({ draws, cell, next } :: frames) := by
  have hpath : cell ∉ ((within ctx frames).withDraws draws).path := h
  rw [step, Context.descend, if_neg hpath]

end

/-! ## The machine halts -/

/-- To take some steps and then more is to take them all. -/
theorem run_add (m n : Nat) (machine : Machine) :
    run ctx (m + n) machine = run ctx n (run ctx m machine) := by
  induction m generalizing machine with
  | zero => rw [Nat.zero_add, run]
  | succ m ih => rw [Nat.succ_add, run, run, ih]

/-- A machine that has halted stays as it is. -/
theorem run_halted (n : Nat) (outcome : Except Fault Value) :
    run ctx n (.halted outcome) = .halted outcome := by
  induction n with
  | zero => rfl
  | succ n ih => exact ih

/-- The machine gets from one state to another. -/
def Reaches (ctx : Context) (machine machine' : Machine) : Prop :=
  ∃ n, run ctx n machine = machine'

namespace Reaches

/-- A state is reached from itself. -/
theorem refl (machine : Machine) : Reaches ctx machine machine :=
  ⟨0, rfl⟩

/-- What is reached after a step is reached before it. -/
theorem step {machine machine' : Machine} (h : Reaches ctx (machine.step ctx) machine') :
    Reaches ctx machine machine' := by
  obtain ⟨n, hn⟩ := h
  exact ⟨n + 1, hn⟩

/-- A state that is reached from one that is reached is reached. -/
theorem trans {machine machine' machine'' : Machine} (h : Reaches ctx machine machine')
    (h' : Reaches ctx machine' machine'') : Reaches ctx machine machine'' := by
  obtain ⟨m, hm⟩ := h
  obtain ⟨n, hn⟩ := h'
  exact ⟨m + n, by rw [run_add, hm, hn]⟩

end Reaches

/-- The machine once a plan has come to its outcome. -/
def afterwards (frames : List Frame) : Except Fault Value → Machine
  | .ok value => .running (.done value) frames
  | .error why => .halted (.error why)

/-- The machine follows a plan to the outcome that the plan has inside the cells of the stack. -/
theorem reaches_run (plan : Plan Value) (frames : List Frame) :
    Reaches ctx (.running plan frames)
      (afterwards frames (plan.run (within ctx frames).enterAt)) := by
  -- The induction over contexts is for the cells entered, the one over plans for what follows them.
  generalize hinner : within ctx frames = inner
  induction inner using Context.induction generalizing plan frames with
  | step inner ih =>
      subst hinner
      induction plan with
      | done value => exact .refl _
      | refuse why => exact .step (.refl _)
      | enter draws cell next ihnext =>
          rw [Plan.run_enter]
          refine .step ?_
          by_cases hcell : cell ∈ (within ctx frames).path
          · rw [step_enter_of_mem hcell, Context.enterAt_of_mem draws hcell]
            exact .refl _
          rw [step_enter_of_not_mem hcell]
          -- The machine first finds the value of the cell, with the frame on the stack.
          have hentered : Reaches ctx
              (.running (ctx.grid.cellPlan (ctx.withDraws draws).ambient cell)
                ({ draws, cell, next } :: frames))
              (afterwards ({ draws, cell, next } :: frames)
                ((within ctx frames).enterAt draws cell)) := by
            by_cases hformula : ctx.grid.holdsFormula cell
            · have hformula' : (within ctx frames).grid.holdsFormula cell := by
                rwa [within_grid]
              rw [Context.enterAt_of_not_mem draws hcell, within_grid, within_withDraws_ambient]
              exact ih cell hcell hformula' (draws.toward (.inside cell)) _
                ({ draws, cell, next } :: frames) rfl
            · have hliteral : ¬ (within ctx frames).grid.holdsFormula cell := by
                rwa [within_grid]
              rw [Context.enterAt_literal draws hcell hliteral, within_grid, Grid.cellPlan,
                if_neg hformula]
              exact .refl _
          refine hentered.trans ?_
          -- Then it takes the frame off and goes on, or it has halted.
          cases (within ctx frames).enterAt draws cell with
          | ok value => exact .step (ihnext value)
          | error why => exact .refl _

/-- The machine halts with the value of the formula. -/
theorem reaches_halted (ctx : Context) (formula : String) :
    Reaches ctx (start ctx formula) (.halted (ctx.evaluate formula)) := by
  rw [Context.evaluate_eq_run]
  refine (reaches_run _ []).trans ?_
  show Reaches ctx (afterwards [] (((Expr.ofFormula formula).plan ctx.grid ctx.ambient).run
    ctx.enterAt)) _
  cases ((Expr.ofFormula formula).plan ctx.grid ctx.ambient).run ctx.enterAt with
  | ok value => exact .step (.refl _)
  | error why => exact .refl _

/-! ## The chain of nested descents -/

/-- Every cell of a stack is a formula cell, and it was off the path when it was entered. -/
def Nested (ctx : Context) : List Frame → Prop
  | [] => True
  | frame :: frames =>
    frame.cell ∉ (within ctx frames).path ∧ ctx.grid.holdsFormula frame.cell ∧ Nested ctx frames

/-- The stack is nested, apart from a cell on top that is no formula and has its value already. -/
def Invariant (ctx : Context) : Machine → Prop
  | .halted _ => True
  | .running plan frames =>
    Nested ctx frames ∨ ∃ value top below, plan = .done value ∧ frames = top :: below ∧
      top.cell ∉ (within ctx below).path ∧ Nested ctx below

/-- At the beginning the stack is empty. -/
theorem start_invariant (ctx : Context) (formula : String) : Invariant ctx (start ctx formula) :=
  Or.inl trivial

/-- Every step keeps the invariant. -/
theorem step_invariant {machine : Machine} (h : Invariant ctx machine) :
    Invariant ctx (machine.step ctx) := by
  cases machine with
  | halted outcome => trivial
  | running plan frames =>
      cases plan with
      | refuse why => trivial
      | done value =>
          cases frames with
          | nil => trivial
          | cons frame frames =>
              -- The frame is taken off, whether it was for a formula cell or not.
              rcases h with ⟨-, -, hnested⟩ | ⟨_, _, _, -, hframes, -, hnested⟩
              · exact Or.inl hnested
              · obtain ⟨rfl, rfl⟩ := List.cons.inj hframes
                exact Or.inl hnested
      | enter draws cell next =>
          rcases h with hnested | ⟨_, _, _, hplan, -⟩
          · by_cases hcell : cell ∈ (within ctx frames).path
            · rw [step_enter_of_mem hcell]
              trivial
            · rw [step_enter_of_not_mem hcell]
              by_cases hformula : ctx.grid.holdsFormula cell
              · exact Or.inl ⟨hcell, hformula, hnested⟩
              · -- The text of the cell is its value.
                have hdone : ctx.grid.cellPlan (ctx.withDraws draws).ambient cell
                    = .done (.text ((ctx.grid.text? cell).getD "")) := by
                  rw [Grid.cellPlan, if_neg hformula]
                exact Or.inr ⟨_, _, _, hdone, rfl, hcell, hnested⟩
          · simp at hplan

/-- Any number of steps keeps the invariant. -/
theorem run_invariant (n : Nat) {machine : Machine} (h : Invariant ctx machine) :
    Invariant ctx (run ctx n machine) := by
  induction n generalizing machine with
  | zero => exact h
  | succ n ih => exact ih (step_invariant h)

/-- What holds of the chain, whether the cell on top is a formula or not. -/
theorem Invariant.chain_eq {machine : Machine} (h : Invariant ctx machine) :
    machine.chain = [] ∨ ∃ top below, machine.chain = top :: below.map Frame.cell ∧
      top ∉ (within ctx below).path ∧ Nested ctx below := by
  cases machine with
  | halted outcome => exact Or.inl rfl
  | running plan frames =>
      rcases h with hnested | ⟨_, top, below, -, rfl, htop, hnested⟩
      · cases frames with
        | nil => exact Or.inl rfl
        | cons top below => exact Or.inr ⟨top.cell, below, rfl, hnested.1, hnested.2.2⟩
      · exact Or.inr ⟨top.cell, below, rfl, htop, hnested⟩

namespace Nested

variable {frames : List Frame}

/-- The cells of a nested stack are distinct. -/
theorem nodup (h : Nested ctx frames) : (frames.map Frame.cell).Nodup := by
  induction frames with
  | nil => exact List.nodup_nil
  | cons frame frames ih =>
      obtain ⟨hcell, -, hnested⟩ := h
      rw [List.map_cons, List.nodup_cons]
      exact ⟨fun hmem => hcell (mem_within_path.mpr (Or.inl hmem)), ih hnested⟩

/-- The cells of a nested stack were not on the path before. -/
theorem not_mem_path (h : Nested ctx frames) : ∀ c ∈ frames.map Frame.cell, c ∉ ctx.path := by
  induction frames with
  | nil => simp
  | cons frame frames ih =>
      obtain ⟨hcell, -, hnested⟩ := h
      intro c hc
      rcases List.mem_cons.mp hc with rfl | hc
      · exact fun hmem => hcell (mem_within_path.mpr (Or.inr hmem))
      · exact ih hnested c hc

/-- The cells of a nested stack hold formulas. -/
theorem holdsFormula (h : Nested ctx frames) :
    ∀ c ∈ frames.map Frame.cell, ctx.grid.holdsFormula c := by
  induction frames with
  | nil => simp
  | cons frame frames ih =>
      obtain ⟨-, hformula, hnested⟩ := h
      intro c hc
      rcases List.mem_cons.mp hc with rfl | hc
      · exact hformula
      · exact ih hnested c hc

/-- Every cell entered leaves one formula cell less to enter. -/
theorem length_add_pending_le (h : Nested ctx frames) :
    frames.length + (within ctx frames).path.pending ctx.grid ≤ ctx.path.pending ctx.grid := by
  induction frames with
  | nil => simp [within]
  | cons frame frames ih =>
      obtain ⟨hcell, hformula, hnested⟩ := h
      have hle := ih hnested
      have hlt : ((within ctx frames).path.insert frame.cell).pending ctx.grid
          < (within ctx frames).path.pending ctx.grid := Path.pending_insert_lt hcell hformula
      show frames.length + 1 + ((within ctx frames).path.insert frame.cell).pending ctx.grid ≤ _
      omega

end Nested

/-- Every evaluation ends, and its descents are bounded. From some number of steps on, the machine
has halted with the value of the formula. At any moment the cells entered and not yet left are
distinct, none of them was on the path before, all but the last one entered are formula cells, and
there are at most as many as there are formula cells off the path, and one more. -/
theorem halts_with_bounded_descent (ctx : Context) (formula : String) :
    (∃ n, ∀ m, n ≤ m → run ctx m (start ctx formula) = .halted (ctx.evaluate formula)) ∧
    ∀ n, (run ctx n (start ctx formula)).chain.Nodup ∧
      (∀ c ∈ (run ctx n (start ctx formula)).chain, c ∉ ctx.path) ∧
      (∀ c ∈ (run ctx n (start ctx formula)).chain.tail, ctx.grid.holdsFormula c) ∧
      (run ctx n (start ctx formula)).chain.length ≤ ctx.path.pending ctx.grid + 1 := by
  constructor
  · -- Once halted, the machine stays as it is.
    obtain ⟨n, hn⟩ := reaches_halted ctx formula
    refine ⟨n, fun m hm => ?_⟩
    obtain ⟨extra, rfl⟩ := Nat.exists_eq_add_of_le hm
    rw [run_add, hn, run_halted]
  · intro n
    have hinvariant := run_invariant n (start_invariant ctx formula)
    rcases hinvariant.chain_eq with hempty | ⟨top, below, hchain, htop, hnested⟩
    · rw [hempty]
      simp
    · rw [mem_within_path, not_or] at htop
      -- Only the cell on top may hold plain text, and is not counted among the pending ones.
      rw [hchain]
      refine ⟨List.nodup_cons.mpr ⟨htop.1, hnested.nodup⟩, ?_, hnested.holdsFormula, ?_⟩
      · intro c hc
        rcases List.mem_cons.mp hc with rfl | hc
        · exact htop.2
        · exact hnested.not_mem_path c hc
      · have hlength := hnested.length_add_pending_le
        rw [List.length_cons, List.length_map]
        omega

end Machine
end FormulaTable
