import FormulaTable.Proofs.Evaluation.Sentinel
import FormulaTable.Proofs.Formula.Argument
import FormulaTable.Proofs.Number.Finite

/-!
# `FormulaTable.Proofs.Evaluation.Finite`: no infinite number gets from one formula to another

Calculations overflow, and a function that is called directly may well have an infinite result. In a
table no formula ever sees one: texts are read as finite numbers only, simple arithmetic and calls
turn any other result into a sentinel, and a cell passes on what its formula comes to.
`Context.numbers_finite` says so for formulas, for all numbers that arguments give, for cells as
operands, and for raw texts.

A number reaches a formula through the cells that are entered. So the step is about surroundings in
which entered cells have finite values (`Surroundings.EntersFinite`), one lemma for each form of a
formula and of an argument, and `Context.entersFinite` is the induction over contexts.
-/

set_option autoImplicit false

namespace FormulaTable

/-! ## Finite values -/

/-- A value is no infinite number and no undefined one. -/
def Value.IsFinite (value : Value) : Prop :=
  ∀ n, value = .number n → n.isFinite

/-- The number of a truth value is finite. -/
theorem isFinite_truthNumber (b : Bool) : (truthNumber b).isFinite := by
  cases b <;> decide

namespace Value

variable {value : Value} {n : Float}

/-- A finite number is a finite value. -/
theorem isFinite_number (h : n.isFinite) : (number n).IsFinite := by
  intro m hm
  obtain rfl : n = m := number.inj hm
  exact h

/-- A text is no number, whatever it spells. -/
theorem isFinite_text (s : String) : (text s).IsFinite := by
  intro m hm
  cases hm

/-- A truth value is a finite value. -/
theorem isFinite_boolean (b : Bool) : (boolean b).IsFinite := by
  intro m hm
  cases hm

/-- A sentinel is a finite value. -/
theorem isFinite_sentinel (s : Sentinel) : (sentinel s).IsFinite := by
  intro m hm
  cases hm

/-- The number that a finite value stands for is finite. -/
theorem IsFinite.of_number? (hvalue : value.IsFinite) (h : value.number? = some n) :
    n.isFinite := by
  cases value with
  | number m =>
      obtain rfl : m = n := Option.some.inj h
      exact hvalue m rfl
  | text s => exact isFinite_of_parseNumber h
  | boolean b =>
      obtain rfl : truthNumber b = n := Option.some.inj h
      exact isFinite_truthNumber b
  | sentinel s => simp [number?] at h

/-- A finite value that stands for no number counts as zero, and zero is finite. -/
theorem IsFinite.getD_number? (hvalue : value.IsFinite) : (value.number?.getD 0).isFinite := by
  cases h : value.number? with
  | none => decide
  | some n => exact hvalue.of_number? h

/-- The numbers that a finite value gives as an argument are finite. -/
theorem IsFinite.of_mem_callNumbers (hvalue : value.IsFinite) (h : n ∈ value.callNumbers) :
    n.isFinite := by
  cases value with
  | number m =>
      obtain rfl : n = m := List.mem_singleton.mp h
      exact hvalue n rfl
  | boolean b =>
      obtain rfl : n = truthNumber b := List.mem_singleton.mp h
      exact isFinite_truthNumber b
  | text s => simp [callNumbers] at h
  | sentinel s => simp [callNumbers] at h

end Value

/-! ## What is filtered -/

/-- A number is checked before it becomes the value of arithmetic. -/
theorem isFinite_finiteValue (n : Float) : (finiteValue n).IsFinite := by
  rw [finiteValue]
  split
  · next hfinite => exact Value.isFinite_number hfinite
  · exact Value.isFinite_sentinel _

/-- Simple arithmetic has a finite value or a sentinel. -/
theorem Operator.isFinite_apply (operator : Operator) (left right : Float) :
    (operator.apply left right).IsFinite := by
  cases operator with
  | add => exact isFinite_finiteValue _
  | sub => exact isFinite_finiteValue _
  | mul => exact isFinite_finiteValue _
  | div =>
      rw [apply]
      split
      · exact Value.isFinite_sentinel _
      · exact isFinite_finiteValue _

namespace Builtin

/-- A call inside a formula has a finite value, whatever the function makes of its arguments. -/
theorem isFinite_contain {outcome : Except Fault Value} {value : Value}
    (h : contain outcome = .ok value) : value.IsFinite := by
  cases outcome with
  | error why =>
      cases why with
      | circular c => cases h
      | argument why =>
          obtain rfl := Except.ok.inj h
          exact Value.isFinite_sentinel _
      | argumentCount f bound count =>
          obtain rfl := Except.ok.inj h
          exact Value.isFinite_sentinel _
  | ok result =>
      cases result with
      | number n =>
          -- Here a number that is not finite is replaced.
          obtain rfl : (if n.isFinite then .number n else .sentinel .failed) = value :=
            Except.ok.inj h
          split
          · next hfinite => exact Value.isFinite_number hfinite
          · exact Value.isFinite_sentinel _
      | text s =>
          obtain rfl := Except.ok.inj h
          exact Value.isFinite_text s
      | boolean b =>
          obtain rfl := Except.ok.inj h
          exact Value.isFinite_boolean b
      | sentinel s =>
          obtain rfl := Except.ok.inj h
          exact Value.isFinite_sentinel s

/-- A call inside a formula has a finite value, whatever the function makes of its arguments. -/
theorem isFinite_callNamed {ambient : Ambient} {f : Option Builtin} {arguments : List Reading}
    {value : Value} (h : callNamed ambient f arguments = .ok value) : value.IsFinite := by
  cases f with
  | none =>
      obtain rfl : Value.sentinel .unknownName = value := Except.ok.inj h
      exact Value.isFinite_sentinel _
  | some f => exact isFinite_contain h

end Builtin

/-! ## Surroundings with finite values -/

/-- Every cell that is entered has a finite value. -/
def Surroundings.EntersFinite (env : Surroundings) : Prop :=
  ∀ c value, env.enter c = .ok value → value.IsFinite

section
variable {env : Surroundings} (henv : env.EntersFinite)
include henv

namespace Surroundings

/-- The number of a cell as an operand is finite. -/
theorem isFinite_cellNumber {c : CellRef} {n : Float} (h : env.cellNumber c = .ok n) :
    n.isFinite := by
  obtain ⟨value, henter, rfl⟩ := Context.exists_of_map_ok h
  exact (henv c value henter).getD_number?

/-- The value of a cell is finite. -/
theorem isFinite_cellValue? {c : CellRef} {value : Value}
    (h : env.cellValue? c = .ok (some value)) : value.IsFinite := by
  rw [cellValue?] at h
  split at h
  · cases h
  · split at h
    · obtain ⟨found, henter, hfound⟩ := Context.exists_of_map_ok h
      obtain rfl := Option.some.inj hfound
      exact henv c found henter
    · obtain rfl := Option.some.inj (Except.ok.inj h)
      exact Value.isFinite_text _

/-- The number that a cell gives as an argument is finite. -/
theorem isFinite_of_mem_cellNumbers {c : CellRef} {xs : List Float} {x : Float}
    (h : env.cellNumbers c = .ok xs) (hx : x ∈ xs) : x.isFinite := by
  obtain ⟨found, hvalue, rfl⟩ := Context.exists_of_map_ok h
  obtain ⟨value, rfl, hnumber⟩ := Option.bind_eq_some_iff.mp (Option.mem_toList.mp hx)
  exact (isFinite_cellValue? henv hvalue).of_number? hnumber

end Surroundings

/-- The value of a formula is finite, whichever of its forms it has. -/
theorem HasForm.isFinite_eval {body : List Char} {e : Expr} (hform : HasForm body e) {value : Value}
    (h : e.eval env = .ok value) : value.IsFinite := by
  -- One case for each form that a body may have.
  cases hform with
  | call _ =>
      rw [Expr.eval] at h
      exact Builtin.isFinite_callNamed h
  | @cell c _ _ =>
      rw [Expr.eval] at h
      obtain ⟨n, hn, rfl⟩ := Context.exists_of_map_ok h
      exact Value.isFinite_number (Surroundings.isFinite_cellNumber henv hn)
  | arithmetic _ =>
      rw [Expr.eval] at h
      obtain ⟨l, -, hmore⟩ := exists_of_bind_ok h
      obtain ⟨r, -, hvalue⟩ := exists_of_bind_ok hmore
      obtain rfl := Except.ok.inj hvalue
      exact Operator.isFinite_apply _ l r
  | number _ _ _ hnumber =>
      rw [Expr.eval] at h
      obtain rfl := Except.ok.inj h
      exact Value.isFinite_number (isFinite_of_parseNumber hnumber)
  | formless _ _ _ _ =>
      rw [Expr.eval] at h
      obtain rfl := Except.ok.inj h
      exact Value.isFinite_sentinel _

/-- Every number that an argument gives is finite, whichever of its forms it has. -/
theorem ArgumentForm.isFinite_of_mem_numbers {text : List Char} {a : Arg}
    (hform : ArgumentForm text a) {xs : List Float} {x : Float} (h : a.numbers env = .ok xs)
    (hx : x ∈ xs) : x.isFinite := by
  cases hform with
  | quoted _ =>
      rw [Arg.numbers] at h
      obtain rfl := Except.ok.inj h
      simp at hx
  | call _ _ =>
      rw [Arg.numbers] at h
      obtain ⟨value, hvalue, rfl⟩ := Context.exists_of_map_ok h
      -- A call may find an infinite number, but the formula around it does not get to see it.
      exact (Builtin.isFinite_callNamed hvalue).of_mem_callNumbers hx
  | range _ _ _ _ =>
      rw [Arg.numbers] at h
      obtain ⟨c, -, here, hread, hx⟩ := exists_of_mem_gather h hx
      exact Surroundings.isFinite_of_mem_cellNumbers henv hread hx
  | noRange _ _ _ _ =>
      rw [Arg.numbers] at h
      obtain rfl := Except.ok.inj h
      simp at hx
  | cell _ _ _ _ =>
      rw [Arg.numbers] at h
      exact Surroundings.isFinite_of_mem_cellNumbers henv h hx
  | number _ _ _ _ hnumber =>
      rw [Arg.numbers] at h
      obtain rfl := Except.ok.inj h
      obtain rfl := List.mem_singleton.mp hx
      exact isFinite_of_parseNumber hnumber
  | other _ _ _ _ _ =>
      rw [Arg.numbers] at h
      obtain ⟨value, hvalue, hxs⟩ := exists_of_bind_ok h
      obtain rfl := Except.ok.inj hxs
      have hfinite : value.IsFinite := (Expr.hasForm_ofBody text).isFinite_eval henv hvalue
      exact hfinite.of_number? (Option.mem_toList.mp hx)

end

/-! ## All contexts -/

namespace Context

/-- Every cell has a finite value, in every context. -/
theorem entersFinite (ctx : Context) : ctx.surroundings.EntersFinite := by
  induction ctx using Context.induction with
  | step ctx ih =>
      intro c value henter
      have hpath : c ∉ ctx.path := not_mem_of_enter_ok henter
      have hvalue : ctx.enter c = .ok value := henter
      by_cases hformula : ctx.grid.holdsFormula c
      · -- Inside the cell there are fewer formula cells to enter, and the hypothesis holds there.
        rw [enter_formula hpath hformula] at hvalue
        have hinside := ih c hpath hformula (ctx.inside c).ambient.draw
        exact (Expr.hasForm_ofBody _).isFinite_eval hinside hvalue
      · rw [enter_literal hpath hformula] at hvalue
        obtain rfl := Except.ok.inj hvalue
        exact Value.isFinite_text _

section
variable {ctx : Context} {n : Float}

/-- The value of a formula is finite. -/
theorem isFinite_evaluate {formula : String} {value : Value}
    (h : ctx.evaluate formula = .ok value) : value.IsFinite :=
  (Expr.hasForm_ofBody (bodyOf formula.toList)).isFinite_eval ctx.entersFinite h

/-- All numbers that arguments give are finite. -/
theorem isFinite_of_mem_allNumbers {arguments : List String} {xs : List Float}
    (h : ctx.ask arguments .allNumbers = .ok xs) (hn : n ∈ xs) : n.isFinite := by
  rw [ask_allNumbers_eq] at h
  obtain ⟨r, hr, here, hread, hn⟩ := exists_of_mem_gather h hn
  -- Each argument is read at a place of its own, where cells have finite values as well.
  obtain ⟨draws, argument, -, rfl⟩ := exists_of_mem_readings hr
  exact (Arg.form_ofChars argument.toList).isFinite_of_mem_numbers
    (((ctx.withDraws draws).toward .numbers).entersFinite) hread hn

/-- The number of one argument is finite; an argument that is left out counts as zero. -/
theorem isFinite_of_ask_number {arguments : List String} {index : Nat}
    (h : ctx.ask arguments (.number index) = .ok n) : n.isFinite := by
  cases hargument : arguments[index]? with
  -- Where there is no argument, the number is zero.
  | none =>
      have hpick : (Source.only index).pick (ctx.readings arguments) = [] := by
        rw [Source.pick, getElem?_readings, hargument]
        rfl
      rw [ask, Query.number, Query.run, hpick] at h
      obtain rfl : (0 : Float) = n := Except.ok.inj h
      decide
  | some argument =>
      rw [ask_number hargument] at h
      obtain ⟨xs, hread, rfl⟩ := Context.exists_of_map_ok h
      cases hxs : xs.head? with
      | none => decide
      | some x =>
          have hmem : x ∈ xs := List.mem_of_head? hxs
          exact (Arg.form_ofChars argument.toList).isFinite_of_mem_numbers
            (((ctx.past index).toward .numbers).entersFinite) hread hmem

/-- The number that a raw text stands for is finite. -/
theorem isFinite_numberOf {raw : String} (h : ctx.numberOf raw = .ok n) : n.isFinite := by
  rw [numberOf] at h
  split at h
  · obtain ⟨value, hvalue, rfl⟩ := Context.exists_of_map_ok h
    exact (isFinite_evaluate hvalue).getD_number?
  · -- A text that is no formula counts as the text value that it spells.
    obtain rfl := Except.ok.inj h
    exact (Value.isFinite_text raw).getD_number?

end

/-! ## Calls outside of formulas -/

/-- A call whose result is not finite is marked as failed in a formula. -/
theorem evaluate_of_call_not_finite {ctx : Context} {f : Builtin} {formula : String}
    {name inner : List Char} {n : Float}
    (hcall : splitCall? (Text.trim (bodyOf formula.toList)) = some (name, inner))
    (hname : f.name = String.ofList (Text.upper name))
    (hresult : ctx.call f ((arguments inner).map String.ofList) = .ok (.number n))
    (hn : ¬ n.isFinite) : ctx.evaluate formula = .ok (.sentinel .failed) := by
  have hform : HasForm (Text.trim (bodyOf formula.toList)) (Expr.ofFormula formula) :=
    Expr.hasForm_ofBody (bodyOf formula.toList)
  refine hform.eval_of_fails hcall hname ?_
  rw [← call_ofList, hresult]
  exact hn

/-- A function of all numbers asks for them and for nothing else. -/
theorem run_overNumbers (ctx : Context) (f : List Float → Float) (arguments : List String) :
    (Meaning.overNumbers f).run (ctx.readings arguments)
      = (fun xs => .number (f xs)) <$> ctx.ask arguments .allNumbers := by
  show gather _ (ctx.readings arguments) >>= _ = _ <$> (gather _ (ctx.readings arguments) >>= _)
  cases gather (fun r => r.numbers ()) (ctx.readings arguments) <;> rfl

/-- In every context, the product of two large numbers is not finite. -/
theorem exists_call_not_finite (ctx : Context) :
    ∃ n, ctx.call .product ["1e200", "1e200"] = .ok (.number n) ∧ ¬ n.isFinite := by
  have hlarge : (parseNumber "1e200".toList).any fun x =>
      !(Meaning.productOf ([x] ++ ([x] ++ []))).isFinite := by decide +kernel
  obtain ⟨x, hx, hproduct⟩ := (Option.any_eq_true _ _).mp hlarge
  have hargument : ∀ there : Context, there.argumentNumbers "1e200" = .ok [x] := by
    intro there
    have hform : Arg.ofString "1e200" = .number x (String.ofList "1e200".toList) :=
      (Arg.form_ofChars _).unique (.number (by decide +kernel) (by decide +kernel)
        (by decide +kernel) (by decide +kernel) hx)
    rw [argumentNumbers, hform, Arg.numbers]
  have hasked : ctx.ask ["1e200", "1e200"] .allNumbers = .ok ([x] ++ ([x] ++ [])) := by
    rw [ask_allNumbers_cons, ask_allNumbers_cons, hargument, hargument]
    rfl
  refine ⟨Meaning.productOf ([x] ++ ([x] ++ [])), ?_, by simpa using hproduct⟩
  -- Two arguments are allowed, so the function is called with the numbers of both.
  have hcount : Builtin.product.brokenBound? (ctx.readings ["1e200", "1e200"]).length = none := by
    rw [length_readings]
    rfl
  rw [call, Builtin.call, hcount]
  show (Meaning.overNumbers Meaning.productOf).run (ctx.readings ["1e200", "1e200"]) = _
  rw [run_overNumbers, hasked]
  rfl

/-- No infinite number, and no undefined one, gets from one formula to another. The value of a
formula is finite if it is a number; so are all numbers that arguments give, the number of a cell as
an operand, and the number of a raw text. A function that is called directly may have an infinite
result, and a formula that is such a call fails. -/
theorem numbers_finite (ctx : Context) :
    (∀ formula n, ctx.evaluate formula = .ok (.number n) → n.isFinite) ∧
      (∀ arguments xs, ctx.ask arguments .allNumbers = .ok xs → ∀ x ∈ xs, x.isFinite) ∧
      (∀ c n, ctx.surroundings.cellNumber c = .ok n → n.isFinite) ∧
      (∀ raw n, ctx.numberOf raw = .ok n → n.isFinite) ∧
      (∃ f arguments n, ctx.call f arguments = .ok (.number n) ∧ ¬ n.isFinite) ∧
      ∀ formula name inner f n,
        splitCall? (Text.trim (bodyOf formula.toList)) = some (name, inner) →
        f.name = String.ofList (Text.upper name) →
        ctx.call f ((arguments inner).map String.ofList) = .ok (.number n) → ¬ n.isFinite →
        ctx.evaluate formula = .ok (.sentinel .failed) := by
  refine ⟨?_, ?_, ?_, ?_, ?_, ?_⟩
  · intro formula n h
    exact isFinite_evaluate h n rfl
  · intro arguments xs h x hx
    exact isFinite_of_mem_allNumbers h hx
  · intro c n h
    exact Surroundings.isFinite_cellNumber ctx.entersFinite h
  · intro raw n h
    exact isFinite_numberOf h
  · -- PRODUCT(1e200, 1e200) overflows as a call.
    obtain ⟨n, hcall, hn⟩ := exists_call_not_finite ctx
    exact ⟨.product, ["1e200", "1e200"], n, hcall, hn⟩
  · intro formula name inner f n hcall hname hresult hn
    exact evaluate_of_call_not_finite hcall hname hresult hn

/-- The product in `B1` is too large. Called directly it has a number that is not finite, but in the
table `B1` is the mark of a failed function, which counts as zero and gives a range no number. -/
theorem overflow_stays_outside :
    let ctx := (Grid.ofRows [["5", "=PRODUCT(1e200,1e200)"]]).context .morning
    (ctx.evaluate "=A1" = .ok (.number 5) ∧ (5 : Float).isFinite) ∧
      (ctx.ask ["A1:B1", "7"] .allNumbers = .ok [5, 7] ∧ ∀ x ∈ [5, 7], Float.isFinite x) ∧
      (ctx.surroundings.cellNumber ⟨0, 1⟩ = .ok 0 ∧ (0 : Float).isFinite) ∧
      (ctx.numberOf "=B1" = .ok 0 ∧ (0 : Float).isFinite) ∧
      ∃ n, ctx.call .product ["1e200", "1e200"] = .ok (.number n) ∧ ¬ n.isFinite ∧
        ctx.evaluate "=PRODUCT(1e200,1e200)" = .ok (.sentinel .failed) := by
  intro ctx
  obtain ⟨hvalues, hlists, hcells, hraws, -, hcalls⟩ := numbers_finite ctx
  have hvalue : ctx.evaluate "=A1" = .ok (.number 5) := eq_ok_of_toOption (by decide +kernel)
  have hlist : ctx.ask ["A1:B1", "7"] .allNumbers = .ok [5, 7] :=
    eq_ok_of_toOption (by decide +kernel)
  have hcell : ctx.surroundings.cellNumber ⟨0, 1⟩ = .ok 0 := eq_ok_of_toOption (by decide +kernel)
  have hraw : ctx.numberOf "=B1" = .ok 0 := eq_ok_of_toOption (by decide +kernel)
  refine ⟨⟨hvalue, hvalues _ _ hvalue⟩, ⟨hlist, hlists _ _ hlist⟩, ⟨hcell, hcells _ _ hcell⟩,
    ⟨hraw, hraws _ _ hraw⟩, ?_⟩
  -- Called directly, the function passes its product on as it is.
  obtain ⟨n, hresult, hn⟩ := exists_call_not_finite ctx
  have hsplit : splitCall? (Text.trim (bodyOf "=PRODUCT(1e200,1e200)".toList))
      = some ("PRODUCT".toList, "1e200,1e200".toList) := by decide +kernel
  have harguments : (arguments "1e200,1e200".toList).map String.ofList = ["1e200", "1e200"] := by
    decide +kernel
  rw [← harguments] at hresult
  refine ⟨n, harguments ▸ hresult, hn,
    hcalls _ _ _ .product n hsplit (by decide +kernel) hresult hn⟩

end Context
end FormulaTable
