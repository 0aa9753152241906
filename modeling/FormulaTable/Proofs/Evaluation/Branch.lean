import FormulaTable.Proofs.Evaluation.Escape
import FormulaTable.Proofs.Evaluation.Finite
import FormulaTable.Proofs.Evaluation.Undrawn
import FormulaTable.Proofs.Formula.Calls

/-!
# `FormulaTable.Proofs.Evaluation.Branch`: only the branch that is taken matters

`IF` reads its condition and then one of its branches. The branch that is not taken may be a
circular reference, or a call that fails, and makes no difference.
`Context.conditional_reads_one_branch` says so of formulas as they are written. These are two
evaluations, and each draws anew, so the condition and the branch that is taken have to be undrawn
(`Context.conditionals_differ_if_drawn`).

The statement is about two formulas, but the proof is about one: `Context.evaluate_conditionalText`
gives the outcome of a conditional in terms of its arguments, and the branch that is not taken is
not among the terms. There are two steps to it.

* A call in a formula meets its arguments as they are written (`Context.evaluate_callText`), so the
  branches are not mixed up where the text is cut at commas.
* Between the function and the formula stands `Builtin.contain`. It leaves the outcome of a
  conditional as it is (`Builtin.contain_eq_self`): arguments give finite numbers only, and only
  circular references get out of them.
-/

set_option autoImplicit false

namespace FormulaTable

open Meaning

/-! ## Outcomes that a formula sees as they are -/

/-- A result is passed on to the formula, if it is no infinite number, and so is a circular
reference. -/
theorem Builtin.contain_eq_self {ctx : Context} {outcome : Except Fault Value}
    (hresult : ctx.ResultOrCircular outcome)
    (hfinite : ∀ value, outcome = .ok value → value.IsFinite) : contain outcome = outcome := by
  rcases hresult with ⟨value, rfl⟩ | ⟨met, rfl, -⟩
  · cases value with
    | number n =>
        have hn : n.isFinite := hfinite _ rfl n rfl
        show Except.ok (if n.isFinite then Value.number n else _) = _
        rw [if_pos hn]
    | text s => rfl
    | boolean b => rfl
    | sentinel s => rfl
  · rfl

/-! ## Conditionals -/

/-- Reading a branch is never refused. -/
theorem branch_neverRefuses (index : Nat) : (branch index).NeverRefuses := by
  intro numbers
  cases numbers with
  | cons n rest => trivial
  | nil =>
      intro texts
      trivial

/-- A conditional never refuses, with any number of arguments. -/
theorem conditional_neverRefuses (count : Nat) : (conditional count).NeverRefuses := by
  intro numbers
  -- It does not matter which branch is chosen.
  suffices h : ∀ chosen : Nat, Query.NeverRefuses
      (if chosen < count then branch chosen else pure (.boolean false)) from h _
  intro chosen
  split
  · exact branch_neverRefuses chosen
  · trivial

namespace Context

variable {ctx : Context}

/-- A call of a function in a formula has its arguments as they are written. -/
theorem evaluate_callText {name inner : List Char} {args : List (List Char)} {f : Builtin}
    (hname : IsCallName name) (hf : Builtin.ofName? name = some f)
    (hargs : ∀ argument ∈ args, IsArgument argument) (hinner : Listed args inner) :
    ctx.evaluate (String.ofList ('=' :: callText name inner))
      = Builtin.contain (ctx.call f (args.map String.ofList)) := by
  rw [evaluate, Expr.ofFormula_callText hname hargs hinner, hf, Expr.eval, call_ofList]
  rfl

/-- The first number that an argument gives, or its text if it gives none. -/
def numberOrText (ctx : Context) (argument : String) : Except Fault Value :=
  match ctx.ask [argument] .allNumbers with
  | .ok (n :: _) => .ok (.number n)
  | .ok [] => .text <$> ctx.ask [argument] (.text 0)
  | .error why => .error why

/-- A branch is asked for its number, and for its text only if there is no number. -/
theorem ask_branch {arguments : List String} {index : Nat} {argument : String}
    (h : arguments[index]? = some argument) :
    ctx.ask arguments (branch index) = (ctx.past index).numberOrText argument := by
  rw [numberOrText, ask_allNumbers_singleton]
  refine (run_numbers_only h _).trans ?_
  cases (ctx.past index).argumentNumbers argument with
  | error why => rfl
  | ok numbers =>
      cases numbers with
      | cons n rest => rfl
      -- Without a number the branch is asked for its text.
      | nil =>
          rw [ask_text (show [argument][0]? = some argument from rfl)]
          refine (run_texts_only h _).trans ?_
          show ((ctx.past index).argumentTexts argument >>= _)
            = _ <$> _ <$> (ctx.past index).argumentTexts argument
          cases (ctx.past index).argumentTexts argument <;> rfl

/-- With both branches, one of them is the outcome, as it is read at its place. -/
theorem call_ifElse (ctx : Context) (c t u : String) :
    ctx.call .ifElse [c, t, u] = ctx.ask [c] (.number 0) >>= fun x =>
      if x != 0 then (ctx.past 1).numberOrText t else (ctx.past 2).numberOrText u := by
  have hcall : ctx.call .ifElse [c, t, u] = (conditional 3).run (ctx.readings [c, t, u]) := rfl
  have hcondition : [c, t, u][0]? = some c := rfl
  rw [hcall, ask_number (show [c][0]? = some c from rfl)]
  refine (run_numbers_only hcondition _).trans ?_
  show (ctx.argumentNumbers c >>= _) = _ <$> ctx.argumentNumbers c >>= _
  cases ctx.argumentNumbers c with
  | error why => rfl
  | ok numbers =>
      show Query.run _ (if (if numbers.head?.getD 0 != 0 then 1 else 2) < 3 then _ else _)
        = if numbers.head?.getD 0 != 0 then _ else _
      -- There are three arguments, so neither branch is left out.
      cases numbers.head?.getD 0 != 0 with
      | true => exact ask_branch (show [c, t, u][1]? = some t from rfl)
      | false => exact ask_branch (show [c, t, u][2]? = some u from rfl)

/-- A number of an argument is finite. -/
theorem isFinite_numberOrText {argument : String} {value : Value}
    (h : ctx.numberOrText argument = .ok value) : value.IsFinite := by
  rw [numberOrText] at h
  split at h
  · next n rest hnumbers =>
      obtain rfl := Except.ok.inj h
      exact Value.isFinite_number (isFinite_of_mem_allNumbers hnumbers List.mem_cons_self)
  · obtain ⟨text, -, rfl⟩ := exists_of_map_ok h
    exact Value.isFinite_text text
  · cases h

/-- A conditional with both branches, as it is written in a formula. -/
def conditionalText (condition chosen other : String) : String :=
  "=IF(" ++ condition ++ "," ++ chosen ++ "," ++ other ++ ")"

/-- The branches of a conditional are the second and the third argument in its text. -/
theorem evaluate_conditionalText_eq_call {c t u : String}
    (hargs : ∀ argument ∈ [c, t, u], IsArgument argument.toList) :
    ctx.evaluate (conditionalText c t u) = Builtin.contain (ctx.call .ifElse [c, t, u]) := by
  have hname : Builtin.ofName? "IF".toList = some .ifElse := by decide +kernel
  let inner := c.toList ++ ',' :: (t.toList ++ ',' :: u.toList)
  have hlisted : Listed [c.toList, t.toList, u.toList] inner :=
    .cons Text.allBlank_nil (.cons Text.allBlank_nil (.single Text.allBlank_nil))
  have hlist : ∀ argument ∈ [c.toList, t.toList, u.toList], IsArgument argument := by
    simpa using hargs
  have htext : conditionalText c t u = String.ofList ('=' :: callText "IF".toList inner) := by
    apply String.toList_inj.mp
    simp [conditionalText, callText, inner]
  rw [htext, evaluate_callText (by decide) hname hlist hlisted]
  simp

/-- The outcome of a conditional: the branch that its condition chooses. The other one is not
read. -/
theorem evaluate_conditionalText {c t u : String}
    (hargs : ∀ argument ∈ [c, t, u], IsArgument argument.toList) :
    ctx.evaluate (conditionalText c t u) = ctx.ask [c] (.number 0) >>= fun x =>
      if x != 0 then (ctx.past 1).numberOrText t else (ctx.past 2).numberOrText u := by
  have hresult : ctx.ResultOrCircular (ctx.call .ifElse [c, t, u]) :=
    resultOrCircular_ask ctx [c, t, u] (conditional_neverRefuses 3)
  rw [evaluate_conditionalText_eq_call hargs, Builtin.contain_eq_self hresult, call_ifElse]
  intro value hvalue
  rw [call_ifElse] at hvalue
  obtain ⟨x, -, hbranch⟩ := exists_of_bind_ok hvalue
  split at hbranch
  · exact isFinite_numberOrText hbranch
  · exact isFinite_numberOrText hbranch

/-- Of a conditional only the branch that is taken matters, whatever is drawn, if it makes no
difference to the condition and to this branch. If the number of the condition is not zero, the
outcome is the same whatever is written as the last argument, and it is the first number that the
second argument gives, or its text if it gives none. If the number is zero, the last two arguments
change places. A fault that is met in reading the branch is passed on. -/
theorem conditional_reads_one_branch {ctx : Context} {c t u e : String} {x : Float}
    (hargs : ∀ argument ∈ [c, t, u, e], IsArgument argument.toList)
    (hcondition : ctx.Undrawn fun ctx => ctx.ask [c] (.number 0))
    (hbranch : ctx.Undrawn fun ctx => ctx.numberOrText t)
    (hx : ctx.ask [c] (.number 0) = .ok x) (draws draws' : Draws) :
    (x != 0 →
      (ctx.withDraws draws).evaluate (conditionalText c t u)
        = (ctx.withDraws draws').evaluate (conditionalText c t e) ∧
      (ctx.withDraws draws).evaluate (conditionalText c t u) = ctx.numberOrText t) ∧
    (x == 0 →
      (ctx.withDraws draws).evaluate (conditionalText c u t)
        = (ctx.withDraws draws').evaluate (conditionalText c e t) ∧
      (ctx.withDraws draws).evaluate (conditionalText c u t) = ctx.numberOrText t) := by
  -- The conditionals that are compared differ in their last two arguments, and have all of these.
  have houtcome : ∀ {a b : String}, a ∈ [c, t, u, e] → b ∈ [c, t, u, e] → ∀ there,
      (ctx.withDraws there).evaluate (conditionalText c a b)
        = if x != 0 then ((ctx.withDraws there).past 1).numberOrText a
          else ((ctx.withDraws there).past 2).numberOrText b := by
    intro a b ha hb there
    have hargument : ∀ argument ∈ [c, a, b], IsArgument argument.toList :=
      List.forall_mem_cons.mpr ⟨hargs c (by simp), List.forall_mem_cons.mpr
        ⟨hargs a ha, List.forall_mem_singleton.mpr (hargs b hb)⟩⟩
    have hnumber : (ctx.withDraws there).ask [c] (.number 0) = .ok x := (hcondition there).trans hx
    rw [evaluate_conditionalText hargument, hnumber]
    rfl
  -- Past the arguments in front of it, the branch that is taken gives the same.
  have hread : ∀ there index, ((ctx.withDraws there).past index).numberOrText t
      = ctx.numberOrText t := by
    intro there index
    obtain ⟨past, hpast⟩ := (ctx.withDraws there).past_eq_withDraws index
    rw [hpast]
    exact hbranch past
  constructor
  · intro htrue
    have hchosen : ∀ b ∈ [c, t, u, e], ∀ there,
        (ctx.withDraws there).evaluate (conditionalText c t b) = ctx.numberOrText t := by
      intro b hb there
      rw [houtcome (by simp) hb, if_pos htrue, hread]
    exact ⟨(hchosen u (by simp) _).trans (hchosen e (by simp) _).symm, hchosen u (by simp) _⟩
  · intro hzero
    have hfalse : ¬ (x != 0) = true := by simp [bne, hzero]
    have hchosen : ∀ b ∈ [c, t, u, e], ∀ there,
        (ctx.withDraws there).evaluate (conditionalText c b t) = ctx.numberOrText t := by
      intro b hb there
      rw [houtcome hb (by simp), if_neg hfalse, hread]
    exact ⟨(hchosen u (by simp) _).trans (hchosen e (by simp) _).symm, hchosen u (by simp) _⟩

/-- What is read of an argument that draws nothing, in a grid that draws nothing, is undrawn. -/
theorem undrawn_numberOrText {argument : String} (h : ctx.grid.DrawsNothing)
    (hargument : ∀ f, f.draws → Arg.anyCalls f ([argument].map Arg.ofString) = false) :
    ctx.Undrawn fun ctx => ctx.numberOrText argument := by
  intro draws
  have hnumbers : (ctx.withDraws draws).ask [argument] .allNumbers
      = ctx.ask [argument] .allNumbers :=
    undrawn_ask h hargument .allNumbers draws
  have htext : (ctx.withDraws draws).ask [argument] (.text 0) = ctx.ask [argument] (.text 0) :=
    undrawn_ask h hargument (.text 0) draws
  show (ctx.withDraws draws).numberOrText argument = ctx.numberOrText argument
  rw [numberOrText, numberOrText, hnumbers, htext]

/-- Inside `A1`, the branches that are not taken are `A1` itself and a name that no function has, or
a call that draws. The branch that is taken has a comma in its text, or is a number. -/
theorem conditional_reads_one_branch_circular :
    let ctx := ((Grid.ofRows [["=IF(B1,\"1,5\",A1)", "5", "0"]]).context .morning).inside ⟨0, 0⟩
    ctx.enter ⟨0, 0⟩ = .error (.circular ⟨0, 0⟩) ∧
      ctx.evaluate "NOPE(1)" = .ok (.sentinel .unknownName) ∧ ∀ draws draws',
      ((ctx.withDraws draws).evaluate "=IF(B1,\"1,5\",A1)"
          = (ctx.withDraws draws').evaluate "=IF(B1,\"1,5\",NOPE(1))" ∧
        (ctx.withDraws draws).evaluate "=IF(B1,\"1,5\",A1)" = .ok (.text "1,5")) ∧
      (ctx.withDraws draws).evaluate "=IF(C1,A1,B1)"
          = (ctx.withDraws draws').evaluate "=IF(C1,RAND(),B1)" ∧
        (ctx.withDraws draws).evaluate "=IF(C1,A1,B1)" = .ok (.number 5) := by
  intro ctx
  have hcircular : ctx.enter ⟨0, 0⟩ = .error (.circular ⟨0, 0⟩) := enter_of_mem (by decide)
  have hunknown : ctx.evaluate "NOPE(1)" = .ok (.sentinel .unknownName) :=
    eq_ok_of_toOption (by decide +kernel)
  have hgrid : ctx.grid.DrawsNothing := Grid.drawsNothing_of_coordinates (by decide +kernel)
  -- The condition and the chosen branch draw nothing; of the other branch nothing is asked.
  have hcondition : ctx.Undrawn fun ctx => ctx.ask ["B1"] (.number 0) :=
    undrawn_ask hgrid (by decide +kernel) _
  have hcondition' : ctx.Undrawn fun ctx => ctx.ask ["C1"] (.number 0) :=
    undrawn_ask hgrid (by decide +kernel) _
  have hbranch : ctx.Undrawn fun ctx => ctx.numberOrText "\"1,5\"" :=
    undrawn_numberOrText hgrid (by decide +kernel)
  have hbranch' : ctx.Undrawn fun ctx => ctx.numberOrText "B1" :=
    undrawn_numberOrText hgrid (by decide +kernel)
  have htrue : ctx.ask ["B1"] (.number 0) = .ok 5 := eq_ok_of_toOption (by decide +kernel)
  have hzero : ctx.ask ["C1"] (.number 0) = .ok 0 := eq_ok_of_toOption (by decide +kernel)
  have htext : ctx.numberOrText "\"1,5\"" = .ok (.text "1,5") :=
    eq_ok_of_toOption (by decide +kernel)
  have hnumber : ctx.numberOrText "B1" = .ok (.number 5) := eq_ok_of_toOption (by decide +kernel)
  refine ⟨hcircular, hunknown, fun draws draws' => ?_⟩
  obtain ⟨hchosen, -⟩ := conditional_reads_one_branch (u := "A1") (e := "NOPE(1)")
    (by decide +kernel) hcondition hbranch htrue draws draws'
  obtain ⟨-, hother⟩ := conditional_reads_one_branch (u := "A1") (e := "RAND()")
    (by decide +kernel) hcondition' hbranch' hzero draws draws'
  obtain ⟨hsame, houtcome⟩ := hchosen (by decide)
  obtain ⟨hsame', houtcome'⟩ := hother (by decide)
  exact ⟨⟨hsame, houtcome.trans htext⟩, hsame', houtcome'.trans hnumber⟩

/-- If the branch that is taken casts a die, two conditionals with this branch may differ, and so
may the branch on its own. -/
theorem conditionals_differ_if_drawn :
    let ctx := (Grid.ofRows [["5"]]).context .morning
    let other := ctx.withDraws (.constant 3)
    (∀ argument ∈ ["1", "RANDBETWEEN(1,6)", "A1", "2"], IsArgument argument.toList) ∧
      ctx.ask ["1"] (.number 0) = .ok 1 ∧
      (ctx.withDraws (.constant 0)).evaluate "=IF(1,RANDBETWEEN(1,6),A1)" = .ok (.number 1) ∧
      other.evaluate "=IF(1,RANDBETWEEN(1,6),2)" = .ok (.number 4) ∧
      other.numberOrText "RANDBETWEEN(1,6)" = .ok (.number 4) ∧ ((4 : Float) == 1) = false := by
  intro ctx other
  refine ⟨by decide +kernel, ?_, ?_, ?_, ?_, by decide +kernel⟩
  · exact eq_ok_of_toOption (by decide +kernel)
  · exact eq_ok_of_toOption (by decide +kernel)
  · exact eq_ok_of_toOption (by decide +kernel)
  · exact eq_ok_of_toOption (by decide +kernel)

end Context
end FormulaTable
