import FormulaTable.Evaluation.Context

/-!
# `FormulaTable.Proofs.Evaluation.Draws`: what is drawn, and what does not depend on it

Every call of a function of random numbers draws anew, so two evaluations of one formula may differ,
and so may two references to one cell. A statement about several evaluations gives each of them
draws of its own with `Context.withDraws`. It is about outcomes that are `Context.Undrawn`: whatever
is drawn makes no difference to them, as is the case if nothing is drawn.

To look at a part of a formula is to go on with the draws behind a turn (`Context.toward`). An
outcome that is undrawn where it stands is the same behind it (`Context.Undrawn.toward_eq`), and any
draws may be laid down behind a turn (`Draws.exists_toward`).

Draws that are the same at every place are the same behind every turn. Contexts with such draws are
`Context.Steady`; in them it makes no difference at which place a part of a formula is evaluated.
-/

set_option autoImplicit false

namespace FormulaTable

namespace Draws

/-- Any draws are what lies behind a turn. -/
theorem exists_toward (turn : Turn) (draws : Draws) : ∃ whole : Draws, whole.toward turn = draws :=
  ⟨⟨fun place => draws.number place.tail⟩, rfl⟩

/-- The same number at every place. -/
def constant (number : Nat) : Draws :=
  ⟨fun _ => number⟩

end Draws

namespace Context

/-- The context behind a turn. -/
def toward (ctx : Context) (turn : Turn) : Context :=
  { ctx with ambient := ctx.ambient.toward turn }

/-- What a part of a formula sees behind a turn is what it sees in the context there. -/
theorem surroundings_toward (ctx : Context) (turn : Turn) :
    (ctx.toward turn).surroundings = ctx.surroundings.toward turn := rfl

/-- Drawing the numbers that are drawn anyway changes nothing. -/
theorem withDraws_self (ctx : Context) : ctx.withDraws ctx.ambient.draw = ctx := rfl

/-- Behind a turn, a part of the numbers is drawn. -/
theorem withDraws_toward (ctx : Context) (draws : Draws) (turn : Turn) :
    (ctx.withDraws draws).toward turn = ctx.withDraws (draws.toward turn) := rfl

/-! ## Outcomes that do not depend on the draws -/

/-- What is drawn makes no difference to an outcome. This is so if nothing is drawn for it. -/
def Undrawn {α : Type} (ctx : Context) (outcome : Context → α) : Prop :=
  ∀ draws, outcome (ctx.withDraws draws) = outcome ctx

section
variable {α β : Type} {ctx : Context} {outcome : Context → α}

/-- What is made of an undrawn outcome is undrawn. -/
theorem Undrawn.map (h : ctx.Undrawn outcome) (f : α → β) :
    ctx.Undrawn fun ctx => f (outcome ctx) :=
  fun draws => congrArg f (h draws)

/-- Two undrawn outcomes are related, whatever is drawn for each, if they are related for some
draws. -/
theorem Undrawn.related {outcome' : Context → β} {P : α → β → Prop} (h : ctx.Undrawn outcome)
    (h' : ctx.Undrawn outcome') {there : Draws}
    (hP : P (outcome (ctx.withDraws there)) (outcome' (ctx.withDraws there)))
    (draws draws' : Draws) :
    P (outcome (ctx.withDraws draws)) (outcome' (ctx.withDraws draws')) := by
  rw [h draws, h' draws', ← h there, ← h' there]
  exact hP

/-- An undrawn outcome is the same behind a turn. -/
theorem Undrawn.toward_eq (h : ctx.Undrawn outcome) (draws : Draws) (turn : Turn) :
    outcome ((ctx.withDraws draws).toward turn) = outcome ctx :=
  h (draws.toward turn)

end

/-! ## Contexts in which all draws are the same -/

/-- The numbers that are drawn do not change behind a turn. -/
def Steady (ctx : Context) : Prop :=
  ∀ turn, ctx.ambient.toward turn = ctx.ambient

/-- With one number for all places, a context is steady. -/
theorem steady_constant (ctx : Context) (number : Nat) :
    (ctx.withDraws (.constant number)).Steady :=
  fun _ => rfl

section
variable {ctx : Context} (h : ctx.Steady)
include h

/-- A steady context is the same behind a turn. -/
theorem Steady.toward_eq (turn : Turn) : ctx.toward turn = ctx := by
  rw [toward, h turn]

/-- In a steady context, what a part of a formula sees is the same behind a turn. -/
theorem Steady.surroundings_toward (turn : Turn) :
    ctx.surroundings.toward turn = ctx.surroundings := by
  rw [← Context.surroundings_toward, h.toward_eq]

end

end Context
end FormulaTable
