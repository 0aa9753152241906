import FormulaTable.Evaluation.Context

/-!
# `FormulaTable.Proofs.Evaluation.Plan`: evaluation as a tree of entered cells

`Expr.eval` asks for the values of other cells through a function, so a proof about the cells it
enters would have to go through the whole dispatch again. `Expr.plan` does the dispatch once and for
all: it is the tree of everything an evaluation may do with other cells. A node enters a cell from a
place and has one branch for each value found there; a leaf is a result or a refusal. What is drawn
is fixed by the world outside, so a plan is made for one world, and its nodes are marked with what
is left of it at their places.

* `Expr.eval_eq_run`: the value of a formula is what its plan comes to when every cell is answered
  by `Surroundings.enterAt`.
* `Arg.readings_eq_map`: arguments are met with the outcomes of the plans of their readings.

A property of all evaluations is then an induction on a tree with three constructors. The plans of
arguments and of calls follow the readings of `Surroundings` and `Query.run` one by one.

Both theorems ask that a cell can fail only for a circular reference. A call turns any other fault
into a sentinel, also one that comes from a cell, and a plan could not tell the two apart.
`Context.enterAt_onlyCircular` shows that the cells of a table keep to it.
-/

set_option autoImplicit false

namespace FormulaTable

/-- What an evaluation does with other cells: it is done, it refuses, or it enters a cell from a
place and goes on with the value found there. -/
inductive Plan (α : Type) where
  | done (result : α)
  /-- A failure that no cell is to blame for. -/
  | refuse (why : Fault)
  | enter (draws : Draws) (cell : CellRef) (next : Value → Plan α)

namespace Plan

variable {α β γ : Type}

/-- Goes on with the result of a plan. -/
def andThen : Plan α → (α → Plan β) → Plan β
  | .done result, more => more result
  | .refuse why, _ => .refuse why
  | .enter draws cell next, more => .enter draws cell fun value => (next value).andThen more

instance : Monad Plan where
  pure := .done
  bind := andThen

/-- Follows a plan, with the values of cells given by `visit`. -/
def run (visit : Draws → CellRef → Except Fault Value) : Plan α → Except Fault α
  | .done result => .ok result
  | .refuse why => .error why
  | .enter draws cell next => do (next (← visit draws cell)).run visit

/-- The plan that ends at once with a given outcome. -/
def ofOutcome : Except Fault α → Plan α
  | .ok result => .done result
  | .error why => .refuse why

variable {visit : Draws → CellRef → Except Fault Value}

/-- A plan that is done has its result. -/
@[simp] theorem run_done (result : α) : (Plan.done result).run visit = .ok result := rfl

/-- A plan that refuses fails. -/
@[simp] theorem run_refuse (why : Fault) : (Plan.refuse why : Plan α).run visit = .error why := rfl

/-- A plan that is nothing but a result has that result. -/
@[simp] theorem run_pure (result : α) : (pure result : Plan α).run visit = .ok result := rfl

/-- A plan that enters a cell fails where the cell does, or goes on with its value. -/
@[simp] theorem run_enter (draws : Draws) (cell : CellRef) (next : Value → Plan α) :
    (Plan.enter draws cell next).run visit
      = (visit draws cell).bind fun value => (next value).run visit := rfl

/-- The plan made for an outcome comes to it. -/
@[simp] theorem run_ofOutcome (outcome : Except Fault α) :
    (ofOutcome outcome).run visit = outcome := by
  cases outcome <;> rfl

/-- A plan that goes on is followed in two parts. -/
@[simp] theorem run_bind (p : Plan α) (more : α → Plan β) :
    (p >>= more).run visit = p.run visit >>= fun result => (more result).run visit := by
  show (p.andThen more).run visit = (p.run visit).bind fun result => (more result).run visit
  induction p with
  | done result => rfl
  | refuse why => rfl
  | enter draws cell next ih =>
      rw [andThen, run_enter, run_enter]
      cases visit draws cell with
      | error why => rfl
      | ok value => exact ih value

end Plan

/-- The values of cells can fail to be found only for a circular reference. -/
def OnlyCircular (visit : Draws → CellRef → Except Fault Value) : Prop :=
  ∀ draws cell why, visit draws cell = .error why → ∃ met, why = .circular met

/-! ## The plans of arguments -/

/-- An argument as a function meets it, with the plans of its two readings. -/
structure ReadingPlan where
  numbers : Plan (List Float)
  texts : Plan (List String)

/-- The reading that comes of following both plans. -/
def ReadingPlan.reading (visit : Draws → CellRef → Except Fault Value) (r : ReadingPlan) :
    Reading :=
  { numbers := fun _ => r.numbers.run visit, texts := fun _ => r.texts.run visit }

/-- What the items give, one list after the other. -/
def Plan.gather {α β : Type} (read : α → Plan (List β)) : List α → Plan (List β)
  | [] => .done []
  | item :: rest => do
    let here ← read item
    let others ← gather read rest
    return here ++ others

/-- The plan of a dialogue about arguments. -/
def Query.plan {α : Type} (arguments : List ReadingPlan) : Query α → Plan α
  | .done result => .done result
  | .refuse why => .refuse (.argument why)
  | .numbers source next => do
    let xs ← Plan.gather ReadingPlan.numbers (source.pick arguments)
    (next xs).plan arguments
  | .texts source next => do
    let xs ← Plan.gather ReadingPlan.texts (source.pick arguments)
    (next xs).plan arguments

/-- What a formula sees of a call: the leaves of the plan are contained, the cells are passed on. -/
def Plan.contain : Plan Value → Plan Value
  | .done value => .ofOutcome (Builtin.contain (.ok value))
  | .refuse why => .ofOutcome (Builtin.contain (.error why))
  | .enter draws cell next => .enter draws cell fun value => (next value).contain

/-- The plan of a function called with arguments. -/
def Builtin.plan (ambient : Ambient) (f : Builtin) (arguments : List ReadingPlan) : Plan Value :=
  match f.brokenBound? arguments.length with
  | some bound => .refuse (.argumentCount f bound arguments.length)
  | none => (f.query ambient arguments.length).plan arguments

/-- The plan of a call inside a formula. -/
def Builtin.planNamed (ambient : Ambient) (f : Option Builtin) (arguments : List ReadingPlan) :
    Plan Value :=
  match f with
  | none => .done (.sentinel .unknownName)
  | some f => (f.plan ambient arguments).contain

/-! ## The plans of cells and formulas -/

namespace Grid

/-- The cells of a range that lie in the grid, row by row. -/
def cellsOf (g : Grid) (r : CellRange) : List CellRef :=
  match g.clip r with
  | some clipped => clipped.cells
  | none => []

/-- The number of a cell as an operand. -/
def numberPlan (draws : Draws) (c : CellRef) : Plan Float :=
  .enter draws c fun value => .done (value.number?.getD 0)

/-- The value of a cell, if it lies in the grid. -/
def valuePlan (g : Grid) (draws : Draws) (c : CellRef) : Plan (Option Value) :=
  match g.text? c with
  | none => .done none
  | some raw =>
    if isFormula raw then .enter draws c fun value => .done (some value)
    else .done (some (.text raw))

/-- The numbers that a cell gives as an argument. -/
def numbersPlan (g : Grid) (draws : Draws) (c : CellRef) : Plan (List Float) := do
  return ((← g.valuePlan draws c).bind Value.number?).toList

/-- The texts that a cell gives as an argument. -/
def textsPlan (g : Grid) (draws : Draws) (c : CellRef) : Plan (List String) :=
  match g.text? c with
  | none => .done [""]
  | some _ => .enter draws c fun value => .done [value.display]

/-- The number of an operand. -/
def operandPlan (draws : Draws) : Operand → Plan Float
  | .cell c => numberPlan draws c
  | .number n => .done n

end Grid

mutual

/-- The plan of a formula. -/
def Expr.plan (g : Grid) (ambient : Ambient) : Expr → Plan Value
  | .call f arguments => Builtin.planNamed ambient f (Arg.plans g ambient arguments)
  | .cell c => do return .number (← Grid.numberPlan ambient.draw c)
  | .arithmetic left operator right => do
    let l ← Grid.operandPlan (ambient.draw.toward .left) left
    let r ← Grid.operandPlan (ambient.draw.toward .right) right
    return operator.apply l r
  | .number n => .done (.number n)
  | .formless => .done (.sentinel .noValue)

/-- The plan of the numbers that an argument gives. -/
def Arg.numbersPlan (g : Grid) (ambient : Ambient) : Arg → Plan (List Float)
  | .plain _ => .done []
  | .call f arguments => do
    return Value.callNumbers (← Builtin.planNamed ambient f (Arg.plans g ambient arguments))
  | .range r => Plan.gather (g.numbersPlan ambient.draw) (g.cellsOf r)
  | .cell c => g.numbersPlan ambient.draw c
  | .number n _ => .done [n]
  | .other e _ => do return (← e.plan g ambient).number?.toList

/-- The plan of the texts that an argument gives. -/
def Arg.textsPlan (g : Grid) (ambient : Ambient) : Arg → Plan (List String)
  | .plain text => .done [text]
  | .call f arguments => do
    return [(← Builtin.planNamed ambient f (Arg.plans g ambient arguments)).display]
  | .range r => Plan.gather (g.textsPlan ambient.draw) (g.cellsOf r)
  | .cell c => g.textsPlan ambient.draw c
  | .number _ source => .done [source]
  | .other _ source => .done [source]

/-- The plans of arguments as a function meets them. -/
def Arg.plans (g : Grid) (ambient : Ambient) : List Arg → List ReadingPlan
  | [] => []
  | a :: rest =>
    { numbers := a.numbersPlan g (ambient.toward .numbers)
      texts := a.textsPlan g (ambient.toward .texts) } ::
      Arg.plans g (ambient.toward .next) rest

end

/-! ## Following a plan is evaluating -/

section
variable {visit : Draws → CellRef → Except Fault Value}

/-- Plans that are gathered are followed one after the other. -/
theorem Plan.run_gather {α β : Type} (read : α → Plan (List β)) (items : List α) :
    (Plan.gather read items).run visit
      = FormulaTable.gather (fun item => (read item).run visit) items := by
  induction items with
  | nil => rfl
  | cons item rest ih => simp only [Plan.gather, FormulaTable.gather, run_bind, run_pure, ih]; rfl

/-- What is picked from a list of images are the images of what is picked. -/
theorem Source.pick_map {α β : Type} (source : Source) (f : α → β) (items : List α) :
    source.pick (items.map f) = (source.pick items).map f := by
  cases source with
  | all => rfl
  | only index => cases h : items[index]? <;> simp [pick, h]

/-- What images give is gathered from what they are images of. -/
theorem gather_map {α β γ : Type} (read : β → Except Fault (List γ)) (f : α → β) (items : List α) :
    gather read (items.map f) = gather (fun item => read (f item)) items := by
  induction items with
  | nil => rfl
  | cons item rest ih => rw [List.map_cons, gather, gather, ih]

/-- A dialogue that goes on with the result of another one is held after it. -/
theorem Query.run_bind {α β : Type} (q : Query α) (next : α → Query β) (arguments : List Reading) :
    (q >>= next).run arguments = q.run arguments >>= fun a => (next a).run arguments := by
  show (q.andThen next).run arguments = _
  -- Along the first dialogue; the second one only begins where the first is done.
  induction q with
  | done result => rfl
  | refuse why => rfl
  | numbers source more ih =>
      rw [andThen, run, run]
      cases gather (fun r => r.numbers ()) (source.pick arguments) with
      | error why => rfl
      | ok xs => exact ih xs
  | texts source more ih =>
      rw [andThen, run, run]
      cases gather (fun r => r.texts ()) (source.pick arguments) with
      | error why => rfl
      | ok xs => exact ih xs

/-- A dialogue that goes on with an answer is run on it. -/
theorem Query.run_bind_of_ok {α β : Type} {q : Query α} {arguments : List Reading} {a : α}
    (h : q.run arguments = .ok a) (next : α → Query β) :
    (q >>= next).run arguments = (next a).run arguments := by
  rw [run_bind, h]
  rfl

/-- A dialogue about arguments follows their plans. -/
theorem Query.run_plan {α : Type} (arguments : List ReadingPlan) (q : Query α) :
    (q.plan arguments).run visit = q.run (arguments.map (ReadingPlan.reading visit)) := by
  induction q with
  | done result => rfl
  | refuse why => rfl
  | numbers source next ih =>
      -- The question is answered by the same list on both sides; the rest is the hypothesis.
      rw [plan, Plan.run_bind, Plan.run_gather, run, Source.pick_map, gather_map]
      exact congrArg _ (funext ih)
  | texts source next ih =>
      rw [plan, Plan.run_bind, Plan.run_gather, run, Source.pick_map, gather_map]
      exact congrArg _ (funext ih)

/-- Containing the leaves contains the outcome. A fault of a cell gets past both, since it is a
circular reference. -/
theorem Plan.run_contain (h : OnlyCircular visit) (p : Plan Value) :
    p.contain.run visit = Builtin.contain (p.run visit) := by
  induction p with
  | done value => exact run_ofOutcome _
  | refuse why => exact run_ofOutcome _
  | enter draws cell next ih =>
      rw [Plan.contain, run_enter, run_enter]
      cases hcell : visit draws cell with
      | ok value => exact ih value
      | error why =>
          -- `Builtin.contain` passes on exactly this fault.
          obtain ⟨met, rfl⟩ := h draws cell why hcell
          rfl

/-- A call in a formula follows its plan. -/
theorem Builtin.run_planNamed (h : OnlyCircular visit) (ambient : Ambient) (f : Option Builtin)
    (arguments : List ReadingPlan) :
    (planNamed ambient f arguments).run visit
      = callNamed ambient f (arguments.map (ReadingPlan.reading visit)) := by
  cases f with
  | none => rfl
  | some f =>
      show (f.plan ambient arguments).contain.run visit = _
      rw [Plan.run_contain h, callNamed, Builtin.plan, Builtin.call, List.length_map]
      -- The number of arguments is checked before any plan is followed.
      cases f.brokenBound? arguments.length with
      | some bound => rfl
      | none => rw [Query.run_plan]

end

section
variable (env : Surroundings)

/-- The plan of an operand that is a cell comes to the number of the cell. -/
theorem Grid.run_numberPlan (c : CellRef) :
    (Grid.numberPlan env.ambient.draw c).run env.enterAt = env.cellNumber c := rfl

/-- The plan of a cell as it stands comes to its value. -/
theorem Grid.run_valuePlan (c : CellRef) :
    (env.grid.valuePlan env.ambient.draw c).run env.enterAt = env.cellValue? c := by
  rw [valuePlan, Surroundings.cellValue?]
  cases env.grid.text? c with
  | none => rfl
  | some raw =>
      cases h : isFormula raw with
      | false => simp [h]
      | true => simp only [h, if_true]; rfl

/-- The plan of a cell as an argument comes to its numbers. -/
theorem Grid.run_numbersPlan (c : CellRef) :
    (env.grid.numbersPlan env.ambient.draw c).run env.enterAt = env.cellNumbers c := by
  rw [numbersPlan, Plan.run_bind, run_valuePlan]
  rfl

/-- The plan of a cell as an argument comes to its texts. -/
theorem Grid.run_textsPlan (c : CellRef) :
    (env.grid.textsPlan env.ambient.draw c).run env.enterAt = env.cellTexts c := by
  rw [textsPlan, Surroundings.cellTexts, Surroundings.cellText]
  cases env.grid.text? c with
  | none => rfl
  | some raw =>
      show ((env.enter c).bind fun value => .ok [value.display]) = _
      cases env.enter c <;> rfl

/-- The plan of an operand comes to its number. -/
theorem Grid.run_operandPlan (o : Operand) :
    (Grid.operandPlan env.ambient.draw o).run env.enterAt = env.operand o := by
  cases o <;> rfl

end

mutual

/-- A formula is evaluated by following its plan. -/
theorem Expr.eval_eq_run (env : Surroundings) (h : OnlyCircular env.enterAt) :
    (e : Expr) → e.eval env = (e.plan env.grid env.ambient).run env.enterAt
  | .call f arguments => by
      rw [Expr.eval, Expr.plan, Builtin.run_planNamed h, Arg.readings_eq_map env h arguments]
  | .cell c => by
      rw [Expr.eval, Expr.plan, Plan.run_bind, Grid.run_numberPlan]
      rfl
  | .arithmetic left operator right => by
      -- Each operand is read from behind its own turn.
      have hleft := Grid.run_operandPlan (env.toward .left) left
      have hright := Grid.run_operandPlan (env.toward .right) right
      rw [Expr.eval, Expr.plan, ← hleft, ← hright]
      simp only [Plan.run_bind]
      rfl
  | .number _ => by rw [Expr.eval, Expr.plan]; rfl
  | .formless => by rw [Expr.eval, Expr.plan]; rfl

/-- The numbers of an argument are read by following their plan. -/
theorem Arg.numbers_eq_run (env : Surroundings) (h : OnlyCircular env.enterAt) :
    (a : Arg) → a.numbers env = (a.numbersPlan env.grid env.ambient).run env.enterAt
  | .plain _ => by rw [Arg.numbers, Arg.numbersPlan]; rfl
  | .call f arguments => by
      rw [Arg.numbers, Arg.numbersPlan, Plan.run_bind, Builtin.run_planNamed h,
        Arg.readings_eq_map env h arguments]
      rfl
  | .range r => by
      rw [Arg.numbers, Arg.numbersPlan, Plan.run_gather]
      exact congrArg (gather · _) (funext fun c => (Grid.run_numbersPlan env c).symm)
  | .cell c => by rw [Arg.numbers, Arg.numbersPlan, Grid.run_numbersPlan]
  | .number _ _ => by rw [Arg.numbers, Arg.numbersPlan]; rfl
  | .other e _ => by
      rw [Arg.numbers, Arg.numbersPlan, Plan.run_bind, Expr.eval_eq_run env h e]
      rfl

/-- The texts of an argument are read by following their plan. -/
theorem Arg.texts_eq_run (env : Surroundings) (h : OnlyCircular env.enterAt) :
    (a : Arg) → a.texts env = (a.textsPlan env.grid env.ambient).run env.enterAt
  | .plain _ => by rw [Arg.texts, Arg.textsPlan]; rfl
  | .call f arguments => by
      rw [Arg.texts, Arg.textsPlan, Plan.run_bind, Builtin.run_planNamed h,
        Arg.readings_eq_map env h arguments]
      rfl
  | .range r => by
      rw [Arg.texts, Arg.textsPlan, Plan.run_gather]
      exact congrArg (gather · _) (funext fun c => (Grid.run_textsPlan env c).symm)
  | .cell c => by rw [Arg.texts, Arg.textsPlan, Grid.run_textsPlan]
  | .number _ _ => by rw [Arg.texts, Arg.textsPlan]; rfl
  | .other _ _ => by rw [Arg.texts, Arg.textsPlan]; rfl

/-- Arguments are met with the outcomes of their plans. -/
theorem Arg.readings_eq_map (env : Surroundings) (h : OnlyCircular env.enterAt) :
    (arguments : List Arg) → Arg.readings env arguments
      = (Arg.plans env.grid env.ambient arguments).map (ReadingPlan.reading env.enterAt)
  | [] => by rw [Arg.readings, Arg.plans]; rfl
  | a :: rest => by
      -- A turn changes what is drawn, not how cells are entered.
      rw [Arg.readings, Arg.plans, List.map_cons, Arg.readings_eq_map (env.toward .next) h rest,
        Arg.numbers_eq_run (env.toward .numbers) h a, Arg.texts_eq_run (env.toward .texts) h a]
      rfl

end

end FormulaTable
