import FormulaTable.Proofs.Evaluation.Ask
import FormulaTable.Proofs.Evaluation.PathIndependence
import FormulaTable.Proofs.Formula.Form

/-!
# `FormulaTable.Proofs.Evaluation.Sentinel`: where sentinels come from

The value of a formula is a sentinel only for something that the outermost form of the formula does
itself: it calls a name that no function has, its function fails, it divides by zero, or it has no
value. `Context.sentinel_of_evaluate` says for every sentinel which form it takes, and that none is
passed on: a cell or a nested call with a sentinel for its value gives no number, which counts as
zero, and the text of the sentinel.

Functions never result in a sentinel, whatever their arguments are (`Builtin.query_asksOnly`), so a
call has one only by `Builtin.contain` (`Builtin.contain_call_eq_sentinel`). That the forms of a
formula exclude each other is shown in `FormulaTable.Proofs.Formula.Form`.
-/

set_option autoImplicit false

namespace FormulaTable

/-! ## Calls -/

/-- What a dialogue ends with is one of the results that it may have. -/
theorem Query.AsksOnly.result_of_run {α : Type} {q : Query α} {asked : ReadingKind → Nat → Prop}
    {result : α → Prop} (hq : q.AsksOnly asked result) {arguments : List Reading} {a : α}
    (h : q.run arguments = .ok a) : result a := by
  -- Along the dialogue: each answer that is given leads to a dialogue with the same property.
  induction q with
  | done b =>
      obtain rfl : b = a := by simpa [run] using h
      exact hq
  | refuse why => cases h
  | numbers source next ih =>
      rw [run] at h
      obtain ⟨xs, -, hmore⟩ := exists_of_bind_ok h
      exact ih xs (hq.2 xs) hmore
  | texts source next ih =>
      rw [run] at h
      obtain ⟨xs, -, hmore⟩ := exists_of_bind_ok h
      exact ih xs (hq.2 xs) hmore

namespace Builtin

variable {ambient : Ambient} {f : Builtin} {arguments : List Reading} {s : Sentinel}

/-- A function never results in a sentinel. -/
theorem call_ne_sentinel : f.call ambient arguments ≠ .ok (.sentinel s) := by
  intro h
  rw [call] at h
  cases hbound : f.brokenBound? arguments.length with
  | some bound =>
      rw [hbound] at h
      cases h
  | none =>
      rw [hbound] at h
      exact (query_asksOnly ambient arguments.length f).result_of_run h s rfl

/-- A call fails: there is a fault that is no circular reference, or a number that is not finite. -/
def Fails : Except Fault Value → Prop
  | .ok (.number n) => ¬ n.isFinite
  | .ok _ => False
  | .error (.circular _) => False
  | .error _ => True

/-- A call inside a formula has no sentinel for its value but that of a failed function. -/
theorem contain_call_eq_sentinel : contain (f.call ambient arguments) = .ok (.sentinel s) ↔
    s = .failed ∧ Fails (f.call ambient arguments) := by
  have hnone : ∀ s, f.call ambient arguments ≠ .ok (.sentinel s) := fun _ => call_ne_sentinel
  cases hcall : f.call ambient arguments with
  | ok value =>
      cases value with
      | number n =>
          by_cases hfinite : n.isFinite <;> simp [contain, Fails, hfinite, eq_comm]
      | text t => simp [contain, Fails]
      | boolean b => simp [contain, Fails]
      | sentinel s' => exact absurd hcall (hnone s')
  | error why => cases why <;> simp [contain, Fails, eq_comm]

end Builtin

/-! ## Arithmetic -/

/-- The only sentinel for a number is the one for no value. -/
theorem finiteValue_eq_sentinel {n : Float} {s : Sentinel} (h : finiteValue n = .sentinel s) :
    s = .noValue := by
  rw [finiteValue] at h
  split at h
  · cases h
  · simpa [eq_comm] using h

namespace Operator

variable {operator : Operator} {left right : Float}

/-- Arithmetic that is no number divides by zero or has no value. -/
theorem apply_eq_sentinel {s : Sentinel} (h : operator.apply left right = .sentinel s) :
    s = .divisionByZero ∧ operator = .div ∧ right == 0 ∨ s = .noValue := by
  cases operator with
  | add => exact Or.inr (finiteValue_eq_sentinel h)
  | sub => exact Or.inr (finiteValue_eq_sentinel h)
  | mul => exact Or.inr (finiteValue_eq_sentinel h)
  | div =>
      rw [apply] at h
      by_cases hzero : right == 0
      · rw [if_pos hzero] at h
        exact Or.inl ⟨by simpa [eq_comm] using h, rfl, hzero⟩
      · rw [if_neg hzero] at h
        exact Or.inr (finiteValue_eq_sentinel h)

/-- A division by zero is marked so. -/
theorem div_apply_of_zero (h : right == 0) :
    Operator.div.apply left right = .sentinel .divisionByZero := by
  rw [apply, if_pos h]

end Operator

/-! ## Where a sentinel comes from -/

/-- What the outermost form of a formula does to have a sentinel for its value. -/
inductive SentinelOrigin (env : Surroundings) (body : List Char) : Sentinel → Prop where
  | unknownName {name inner : List Char} (hcall : splitCall? body = some (name, inner))
    (hname : ∀ f : Builtin, f.name ≠ String.ofList (Text.upper name)) :
    SentinelOrigin env body .unknownName
  | failed {name inner : List Char} {f : Builtin} (hcall : splitCall? body = some (name, inner))
    (hname : f.name = String.ofList (Text.upper name))
    (hfails : Builtin.Fails
      (f.call env.ambient (Arg.readings env ((arguments inner).map Arg.ofChars)))) :
    SentinelOrigin env body .failed
  | divisionByZero {left right : List Char} {r : Float}
    (harithmetic : splitArithmetic? body = some (left, .div, right))
    (hright : (env.toward .right).operand (Operand.ofChars right) = .ok r) (hzero : r == 0) :
    SentinelOrigin env body .divisionByZero
  | noValue (hcall : splitCall? body = none) (hcell : CellRef.ofChars? body = none)
    (hnumber : parseNumber body = none) : SentinelOrigin env body .noValue

section
variable {env : Surroundings} {body : List Char} {e : Expr} {value : Value}

/-- Arithmetic that has a value has found both operands, each at its place. -/
theorem Expr.eval_arithmetic_eq_ok {left right : Operand} {operator : Operator}
    (h : (Expr.arithmetic left operator right).eval env = .ok value) :
    ∃ l r, (env.toward .left).operand left = .ok l ∧ (env.toward .right).operand right = .ok r ∧
      value = operator.apply l r := by
  rw [Expr.eval] at h
  obtain ⟨l, hleft, hmore⟩ := exists_of_bind_ok h
  obtain ⟨r, hright, hvalue⟩ := exists_of_bind_ok hmore
  exact ⟨l, r, hleft, hright, (Except.ok.inj hvalue).symm⟩

/-- A sentinel comes from the outermost form. -/
theorem HasForm.origin (hform : HasForm body e) {s : Sentinel}
    (h : e.eval env = .ok (.sentinel s)) : SentinelOrigin env body s := by
  cases hform with
  | @call name inner hcall =>
      rw [Expr.eval] at h
      cases hname : Builtin.ofName? name with
      | none =>
          rw [hname] at h
          obtain rfl : Sentinel.unknownName = s := by simpa [Builtin.callNamed] using h
          exact .unknownName hcall (Builtin.ofName?_eq_none.mp hname)
      | some f =>
          rw [hname] at h
          obtain ⟨rfl, hfails⟩ := Builtin.contain_call_eq_sentinel.mp h
          exact .failed hcall (Builtin.ofName?_eq_some.mp hname) hfails
  | cell _ _ =>
      rw [Expr.eval] at h
      -- A cell in a formula counts as a number, whatever mark it has itself.
      obtain ⟨n, -, hvalue⟩ := Context.exists_of_map_ok h
      cases hvalue
  | arithmetic harithmetic =>
      obtain ⟨l, r, -, hright, hvalue⟩ := Expr.eval_arithmetic_eq_ok h
      rcases Operator.apply_eq_sentinel hvalue.symm with ⟨rfl, rfl, hzero⟩ | rfl
      · exact .divisionByZero harithmetic hright hzero
      · -- The result is not finite. Simple arithmetic has no other form.
        exact .noValue (splitCall?_of_splitArithmetic? harithmetic)
          (ofChars?_of_splitArithmetic? harithmetic) (parseNumber_of_splitArithmetic? harithmetic)
  | number _ _ _ _ =>
      rw [Expr.eval] at h
      cases h
  | formless hcall hcell _ hnumber =>
      rw [Expr.eval] at h
      obtain rfl : Sentinel.noValue = s := by simpa using h
      exact .noValue hcall hcell hnumber

/-- A call of a name that no function has is marked so. -/
theorem HasForm.eval_of_unknownName (hform : HasForm body e) {name inner : List Char}
    (hcall : splitCall? body = some (name, inner))
    (hname : ∀ f : Builtin, f.name ≠ String.ofList (Text.upper name)) :
    e.eval env = .ok (.sentinel .unknownName) := by
  rw [hform.unique (.call hcall), Expr.eval, Builtin.ofName?_eq_none.mpr hname]
  rfl

/-- A call that fails is marked so. -/
theorem HasForm.eval_of_fails (hform : HasForm body e) {name inner : List Char} {f : Builtin}
    (hcall : splitCall? body = some (name, inner))
    (hname : f.name = String.ofList (Text.upper name))
    (hfails : Builtin.Fails
      (f.call env.ambient (Arg.readings env ((arguments inner).map Arg.ofChars)))) :
    e.eval env = .ok (.sentinel .failed) := by
  rw [hform.unique (.call hcall), Expr.eval, Builtin.ofName?_eq_some.mpr hname]
  exact Builtin.contain_call_eq_sentinel.mpr ⟨rfl, hfails⟩

/-- A division by zero is marked so, if it has a value. -/
theorem HasForm.eq_of_divisionByZero (hform : HasForm body e) {left right : List Char} {r : Float}
    (harithmetic : splitArithmetic? body = some (left, .div, right))
    (hright : (env.toward .right).operand (Operand.ofChars right) = .ok r) (hzero : r == 0)
    (h : e.eval env = .ok value) : value = .sentinel .divisionByZero := by
  rw [hform.unique (.arithmetic harithmetic)] at h
  obtain ⟨l, r', -, hright', rfl⟩ := Expr.eval_arithmetic_eq_ok h
  rw [hright] at hright'
  obtain rfl : r = r' := Except.ok.inj hright'
  exact Operator.div_apply_of_zero hzero

end

/-! ## What becomes of a sentinel that is read -/

namespace Context

variable {ctx : Context}

/-- Only a formula cell has a sentinel for its value. -/
theorem holdsFormula_of_enter_sentinel {c : CellRef} {s : Sentinel}
    (h : ctx.enter c = .ok (.sentinel s)) : ctx.grid.holdsFormula c := by
  by_contra hformula
  rw [enter_literal (not_mem_of_enter_ok h) hformula] at h
  cases h

/-- A cell with a sentinel for its value is zero as an operand. As an argument, or in a range, it
gives no number, and the text of the sentinel. -/
theorem readings_of_enter_sentinel {c : CellRef} {s : Sentinel}
    (h : ctx.enter c = .ok (.sentinel s)) :
    ctx.surroundings.cellNumber c = .ok 0 ∧ ctx.surroundings.cellNumbers c = .ok [] ∧
      ctx.surroundings.cellTexts c = .ok [s.display] := by
  have henter : ctx.surroundings.enter c = .ok (.sentinel s) := h
  have hholds : (ctx.grid.text? c).any isFormula := holdsFormula_of_enter_sentinel h
  -- Only a formula has a sentinel for its value, so the cell holds one.
  obtain ⟨raw, hraw, hformula⟩ : ∃ raw, ctx.surroundings.grid.text? c = some raw ∧ isFormula raw :=
    (Option.any_eq_true _ _).mp hholds
  refine ⟨?_, ?_, ?_⟩
  · rw [Surroundings.cellNumber, henter]
    rfl
  · rw [Surroundings.cellNumbers, Surroundings.cellValue?, hraw]
    simp only [hformula, henter]
    rfl
  · rw [Surroundings.cellTexts, Surroundings.cellText, hraw, henter]
    rfl

/-- Wherever an argument stands, a sentinel that it has for its value there is not passed on. Read
for its numbers the argument has none, which counts as zero, and read for its texts it has the text
of the sentinel. -/
def AbsorbsSentinels (ctx : Context) (argument : String)
    (value : Context → Except Fault Value) : Prop :=
  ∀ arguments index s, arguments[index]? = some argument →
    (value ((ctx.past index).toward .numbers) = .ok (.sentinel s) →
      ctx.ask arguments (.number? index) = .ok none ∧
      ctx.ask arguments (.number index) = .ok 0) ∧
    (value ((ctx.past index).toward .texts) = .ok (.sentinel s) →
      ctx.ask arguments (.textsAt index) = .ok [s.display])

/-- Sentinels are absorbed where an argument is read as its value has it. -/
theorem absorbsSentinels_of_readings {argument : String} {value : Context → Except Fault Value}
    (hnumbers : ∀ there s, value there = .ok (.sentinel s) →
      (Arg.ofString argument).numbers there.surroundings = .ok [])
    (htexts : ∀ there s, value there = .ok (.sentinel s) →
      (Arg.ofString argument).texts there.surroundings = .ok [s.display]) :
    ctx.AbsorbsSentinels argument value := by
  intro arguments index s hget
  refine ⟨fun hvalue => ⟨?_, ?_⟩, fun hvalue => ?_⟩
  · rw [ask, Query.number?, run_numbers_only hget, argumentNumbers, hnumbers _ s hvalue]
    rfl
  · rw [ask_number hget, argumentNumbers, hnumbers _ s hvalue]
    rfl
  · rw [ask, Query.textsAt, run_texts_only hget, argumentTexts, htexts _ s hvalue]
    rfl

/-- An address among arguments absorbs the sentinel of the cell. -/
theorem absorbsSentinels_of_cell {argument : String} {c : CellRef}
    (hcell : Arg.ofString argument = .cell c) :
    ctx.AbsorbsSentinels argument fun there => there.enter c := by
  apply absorbsSentinels_of_readings
  · intro there s henter
    rw [hcell, Arg.numbers]
    exact (readings_of_enter_sentinel henter).2.1
  · intro there s henter
    rw [hcell, Arg.texts]
    exact (readings_of_enter_sentinel henter).2.2

/-- A nested call absorbs the sentinel that it has for its value. -/
theorem absorbsSentinels_of_nested {argument : String}
    (hcall : (splitCall? argument.toList).isSome) :
    ctx.AbsorbsSentinels argument fun there => there.evaluate argument := by
  obtain ⟨⟨name, inner⟩, hsplit⟩ := Option.isSome_iff_exists.mp hcall
  apply absorbsSentinels_of_readings
  · intro there s hvalue
    rw [evaluate, Expr.ofFormula_of_splitCall? hsplit, Expr.eval] at hvalue
    rw [Arg.ofString_of_splitCall? hsplit, Arg.numbers, hvalue]
    rfl
  · intro there s hvalue
    rw [evaluate, Expr.ofFormula_of_splitCall? hsplit, Expr.eval] at hvalue
    rw [Arg.ofString_of_splitCall? hsplit, Arg.texts, hvalue]
    rfl

/-- Calling a function with texts is calling it with the arguments that they are. -/
theorem call_ofList (f : Builtin) (texts : List (List Char)) :
    ctx.call f (texts.map String.ofList)
      = f.call ctx.surroundings.ambient
        (Arg.readings ctx.surroundings (texts.map Arg.ofChars)) := by
  have hforms : (texts.map String.ofList).map Arg.ofString = texts.map Arg.ofChars := by
    rw [List.map_map]
    refine List.map_congr_left fun text _ => ?_
    show Arg.ofChars (String.ofList text).toList = Arg.ofChars text
    rw [String.toList_ofList]
  rw [call, readings, hforms]
  rfl

/-- The value of a formula is a sentinel only for what its outermost form does. A call of a name
that no function has and a division by zero are always marked, and nothing else is marked so; the
mark of a failed function stands for a call that fails, and a formula without a value is no call, no
address and no number. No sentinel is passed on: a cell that has one is zero as an operand, and
where a cell or a nested call has one as an argument, it has no number there, and the text of the
sentinel. -/
theorem sentinel_of_evaluate {formula : String} {value : Value}
    (h : ctx.evaluate formula = .ok value) :
    let body := Text.trim (bodyOf formula.toList)
    (value = .sentinel .unknownName ↔ ∃ name inner, splitCall? body = some (name, inner) ∧
      ∀ f : Builtin, f.name ≠ String.ofList (Text.upper name)) ∧
    (value = .sentinel .failed ↔ ∃ name inner f, splitCall? body = some (name, inner) ∧
      f.name = String.ofList (Text.upper name) ∧
      Builtin.Fails (ctx.call f ((arguments inner).map String.ofList))) ∧
    (value = .sentinel .divisionByZero ↔ ∃ left right r,
      splitArithmetic? body = some (left, .div, right) ∧
      (ctx.toward .right).surroundings.operand (Operand.ofChars right) = .ok r ∧ r == 0) ∧
    (value = .sentinel .noValue → splitCall? body = none ∧ CellRef.ofChars? body = none ∧
      parseNumber body = none) ∧
    value ≠ .sentinel .circular ∧
    (∀ c s, ctx.enter c = .ok (.sentinel s) →
      ctx.surroundings.operand (.cell c) = .ok 0 ∧ ctx.surroundings.cellNumbers c = .ok [] ∧
      ctx.surroundings.cellTexts c = .ok [s.display]) ∧
    (∀ c argument, Arg.ofString argument = .cell c →
      ctx.AbsorbsSentinels argument fun there => there.enter c) ∧
    (∀ argument, (splitCall? argument.toList).isSome →
      ctx.AbsorbsSentinels argument fun there => there.evaluate argument) := by
  intro body
  have hform : HasForm body (Expr.ofFormula formula) := Expr.hasForm_ofBody (bodyOf formula.toList)
  have heval : (Expr.ofFormula formula).eval ctx.surroundings = .ok value := h
  -- A mark tells where it comes from. That a mark comes from there is a matter of the form.
  have horigin : ∀ s, value = .sentinel s → SentinelOrigin ctx.surroundings body s := by
    rintro s rfl
    exact hform.origin heval
  refine ⟨⟨?_, ?_⟩, ⟨?_, ?_⟩, ⟨?_, ?_⟩, ?_, ?_, fun c s => readings_of_enter_sentinel,
    fun c argument => absorbsSentinels_of_cell, fun argument => absorbsSentinels_of_nested⟩
  · intro hvalue
    cases horigin _ hvalue with
    | unknownName hcall hname => exact ⟨_, _, hcall, hname⟩
  · rintro ⟨name, inner, hcall, hname⟩
    rw [hform.eval_of_unknownName hcall hname] at heval
    exact (Except.ok.inj heval).symm
  · intro hvalue
    cases horigin _ hvalue with
    | failed hcall hname hfails =>
        rw [← call_ofList] at hfails
        exact ⟨_, _, _, hcall, hname, hfails⟩
  · rintro ⟨name, inner, f, hcall, hname, hfails⟩
    rw [call_ofList] at hfails
    rw [hform.eval_of_fails hcall hname hfails] at heval
    exact (Except.ok.inj heval).symm
  · intro hvalue
    cases horigin _ hvalue with
    | divisionByZero harithmetic hright hzero => exact ⟨_, _, _, harithmetic, hright, hzero⟩
  · rintro ⟨left, right, r, harithmetic, hright, hzero⟩
    rw [surroundings_toward] at hright
    exact hform.eq_of_divisionByZero harithmetic hright hzero heval
  · intro hvalue
    cases horigin _ hvalue with
    | noValue hcall hcell hnumber => exact ⟨hcall, hcell, hnumber⟩
  · intro hvalue
    cases horigin _ hvalue

/-- `B1` has the mark of an unknown name. The formula that divides by it has the mark of a division
by zero, because `B1` is zero for it; the mark of `B1` is not passed on. -/
theorem sentinel_of_division_by_sentinel :
    let ctx := (Grid.ofRows [["5", "=NOPE(A1)"]]).context .morning
    ctx.evaluate "=A1/B1" = .ok (.sentinel .divisionByZero) ∧
      (∃ left right r, splitArithmetic? "A1/B1".toList = some (left, .div, right) ∧
        (ctx.toward .right).surroundings.operand (Operand.ofChars right) = .ok r ∧ r == 0) ∧
      ctx.enter ⟨0, 1⟩ = .ok (.sentinel .unknownName) ∧
      ctx.surroundings.operand (.cell ⟨0, 1⟩) = .ok 0 := by
  intro ctx
  have hvalue : ctx.evaluate "=A1/B1" = .ok (.sentinel .divisionByZero) :=
    eq_ok_of_toOption (by decide +kernel)
  -- The sentinel in B1 is another one than the sentinel of the formula that divides by it.
  have hcell : ctx.enter ⟨0, 1⟩ = .ok (.sentinel .unknownName) :=
    eq_ok_of_toOption (by decide +kernel)
  obtain ⟨-, -, hdivision, -, -, hread, -⟩ := sentinel_of_evaluate hvalue
  have hbody : Text.trim (bodyOf "=A1/B1".toList) = "A1/B1".toList := by decide +kernel
  rw [hbody] at hdivision
  exact ⟨hvalue, hdivision.mp rfl, hcell, (hread _ _ hcell).1⟩

end Context
end FormulaTable
