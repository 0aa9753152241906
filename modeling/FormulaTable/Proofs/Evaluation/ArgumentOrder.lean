import FormulaTable.Proofs.Evaluation.Escape
import FormulaTable.Proofs.Evaluation.Replacement
import FormulaTable.Proofs.Evaluation.Sentinel
import FormulaTable.Proofs.Evaluation.Undrawn

/-!
# `FormulaTable.Proofs.Evaluation.ArgumentOrder`: functions whose arguments may stand in any order

`AND`, `OR`, `COUNT` and `COUNTA` ask all arguments one question and take the answers in any order
(`Query.AsksInAnyOrder`). Each argument is read for itself: neither what it gives nor whether it
fails depends on the arguments before it (`gather_perm`). Only the first circular reference is
reported, and that one depends on the order, so two orders come to the same but for the cell that is
named (`Context.ask_perm`).

`Context.argument_order` says so of calls, and of tables: a formula that is such a call may be
replaced by one with the arguments in another order, and every cell shows what it showed before.

An argument that moves draws other numbers than before, so the theorem is about calls and cells that
are undrawn. It is proved for steady contexts, in which an argument reads the same wherever it
stands.
-/

set_option autoImplicit false

namespace FormulaTable

open Meaning

/-! ## Dialogues that take the answers in any order -/

/-- From items in another order the same is gathered in another order, and nothing if nothing was
before. -/
theorem gather_perm {α β : Type} {read : α → Except Fault (List β)} {items items' : List α}
    (hperm : items.Perm items') {xs : List β} (h : gather read items = .ok xs) :
    ∃ ys, gather read items' = .ok ys ∧ xs.Perm ys := by
  -- Every item gives something, whatever stands before it.
  have hall : ∀ item, ∃ here, item ∈ items → read item = .ok here := by
    intro item
    by_cases hitem : item ∈ items
    · obtain ⟨here, hhere⟩ := exists_of_gather_ok h item hitem
      exact ⟨here, fun _ => hhere⟩
    · exact ⟨[], fun hmem => absurd hmem hitem⟩
  -- What an item gives is a function of the item, so the lists are permuted with the items.
  choose give hgive using hall
  have hitems : gather read items = .ok (items.flatMap give) := gather_of_forall_ok hgive
  have hitems' : gather read items' = .ok (items'.flatMap give) :=
    gather_of_forall_ok fun item hitem => hgive item (hperm.mem_iff.mpr hitem)
  rw [hitems] at h
  obtain rfl := Except.ok.inj h
  exact ⟨_, hitems', hperm.flatMap_right give⟩

/-- A dialogue asks all arguments for their numbers, or for their texts, and makes the same of the
answers in any order. -/
inductive Query.AsksInAnyOrder {α : Type} : Query α → Prop where
  | numbers {result : List Float → α} (h : ∀ xs ys, xs.Perm ys → result xs = result ys) :
    AsksInAnyOrder (.numbers .all fun xs => .done (result xs))
  | texts {result : List String → α} (h : ∀ xs ys, xs.Perm ys → result xs = result ys) :
    AsksInAnyOrder (.texts .all fun xs => .done (result xs))

/-- The functions whose arguments may stand in any order. -/
def Builtin.orderFree : List Builtin :=
  [.and, .or, .count, .countFilled]

/-- What these functions look for is in a list wherever it stands there, and as often. -/
theorem Builtin.query_asksInAnyOrder {f : Builtin} (hf : f ∈ orderFree) (ambient : Ambient)
    (count : ℕ) : (f.query ambient count).AsksInAnyOrder := by
  have hand : ∀ xs ys : List Float, xs.Perm ys → allTrue xs = allTrue ys := fun _ _ h => h.all_eq
  have hor : ∀ xs ys : List Float, xs.Perm ys → someTrue xs = someTrue ys := fun _ _ h => h.any_eq
  have hcount : ∀ xs ys : List Float, xs.Perm ys → xs.length = ys.length :=
    fun _ _ h => h.length_eq
  have hfilled : ∀ xs ys : List String, xs.Perm ys → filled xs = filled ys :=
    fun _ _ h => h.countP_eq _
  simp only [orderFree, List.mem_cons, List.not_mem_nil, or_false] at hf
  rcases hf with rfl | rfl | rfl | rfl
  · exact .numbers fun xs ys h => congrArg Value.boolean (hand xs ys h)
  · exact .numbers fun xs ys h => congrArg Value.boolean (hor xs ys h)
  · exact .numbers fun xs ys h => congrArg (fun n => Value.number (Float.ofNat n)) (hcount xs ys h)
  · exact .texts fun xs ys h => congrArg (fun n => Value.number (Float.ofNat n)) (hfilled xs ys h)

/-- Such a dialogue makes something of whatever is answered. -/
theorem Query.AsksInAnyOrder.neverRefuses {α : Type} {q : Query α} (hq : q.AsksInAnyOrder) :
    q.NeverRefuses := by
  cases hq <;> exact fun _ => trivial

namespace Context

/-- Such a dialogue comes to a result, or to a circular reference. -/
theorem ask_cases {α : Type} (ctx : Context) (arguments : List String) {q : Query α}
    (hq : q.AsksInAnyOrder) :
    (∃ a, ctx.ask arguments q = .ok a) ∨ ∃ c, ctx.ask arguments q = .error (.circular c) := by
  rcases resultOrCircular_ask ctx arguments hq.neverRefuses with hok | ⟨c, hc, -⟩
  · exact Or.inl hok
  · exact Or.inr ⟨c, hc⟩

section
variable {ctx : Context} (hsteady : ctx.Steady) {arguments arguments' : List String}
  (hperm : arguments.Perm arguments')
include hsteady hperm

/-- What is answered is answered in any order. -/
theorem ask_perm_ok {α : Type} {q : Query α} (hq : q.AsksInAnyOrder) {a : α}
    (h : ctx.ask arguments q = .ok a) : ctx.ask arguments' q = .ok a := by
  have hreadings : (ctx.readings arguments).Perm (ctx.readings arguments') := by
    rw [hsteady.readings_eq_map, hsteady.readings_eq_map]
    exact hperm.map _
  -- The answers come in another order, of which the result does not depend.
  cases hq with
  | numbers hresult =>
      obtain ⟨xs, hxs, ha⟩ := exists_of_bind_ok h
      obtain ⟨ys, hys, hsame⟩ := gather_perm hreadings hxs
      have hys' : gather (fun r => r.numbers ()) (Source.all.pick (ctx.readings arguments'))
          = .ok ys := hys
      rw [ask, Query.run, hys', ← ha]
      exact congrArg Except.ok (hresult xs ys hsame).symm
  | texts hresult =>
      obtain ⟨xs, hxs, ha⟩ := exists_of_bind_ok h
      obtain ⟨ys, hys, hsame⟩ := gather_perm hreadings hxs
      have hys' : gather (fun r => r.texts ()) (Source.all.pick (ctx.readings arguments'))
          = .ok ys := hys
      rw [ask, Query.run, hys', ← ha]
      exact congrArg Except.ok (hresult xs ys hsame).symm

/-- In any order the arguments come to the same result, or to a circular reference. -/
theorem ask_perm {α : Type} {q : Query α} (hq : q.AsksInAnyOrder) :
    (∃ a, ctx.ask arguments q = .ok a ∧ ctx.ask arguments' q = .ok a) ∨
      ∃ c d, ctx.ask arguments q = .error (.circular c) ∧
        ctx.ask arguments' q = .error (.circular d) := by
  rcases ask_cases ctx arguments hq with ⟨a, ha⟩ | ⟨c, hc⟩
  · exact Or.inl ⟨a, ha, ask_perm_ok hsteady hperm hq ha⟩
  · rcases ask_cases ctx arguments' hq with ⟨b, hb⟩ | ⟨d, hd⟩
    · exact Or.inl ⟨b, ask_perm_ok hsteady hperm.symm hq hb, hb⟩
    · exact Or.inr ⟨c, d, hc, hd⟩

variable {f : Builtin} (hf : f ∈ Builtin.orderFree)
include hf

/-- The outcome of a call: the same value, a circular reference both times, or too few arguments
both times. -/
theorem call_perm :
    (∃ value, ctx.call f arguments = .ok value ∧ ctx.call f arguments' = .ok value) ∨
      (∃ c d, ctx.call f arguments = .error (.circular c) ∧
        ctx.call f arguments' = .error (.circular d)) ∨
      ∃ bound, ctx.call f arguments = .error (.argumentCount f bound arguments.length) ∧
        ctx.call f arguments' = .error (.argumentCount f bound arguments.length) := by
  -- The bounds look at the number of arguments, and that stays what it was.
  have hlength : arguments'.length = arguments.length := hperm.length_eq.symm
  cases hbound : f.brokenBound? arguments.length with
  | some bound =>
      have hbound' : f.brokenBound? arguments'.length = some bound := hlength ▸ hbound
      rw [call_of_brokenBound hbound, call_of_brokenBound hbound', hlength]
      exact Or.inr (Or.inr ⟨bound, rfl, rfl⟩)
  | none =>
      have hbound' : f.brokenBound? arguments'.length = none := hlength ▸ hbound
      rw [call_eq_ask hbound, call_eq_ask hbound', hlength]
      have hasks := Builtin.query_asksInAnyOrder hf ctx.ambient arguments.length
      rcases ask_perm hsteady hperm hasks with hok | hcircular
      · exact Or.inl hok
      · exact Or.inr (Or.inl hcircular)

end

/-! ## Formulas that are calls -/

/-- A formula is a call of a function with arguments, with any letters in the name and blanks
anywhere between. -/
def SpellsCall (formula : String) (f : Builtin) (args : List String) : Prop :=
  ∃ name inner, splitCall? (Text.trim (bodyOf formula.toList)) = some (name, inner) ∧
    Builtin.ofName? name = some f ∧ (arguments inner).map String.ofList = args

/-- Such a formula has the outcome of the call, as a formula sees it. -/
theorem evaluate_of_spellsCall {formula : String} {f : Builtin} {args : List String}
    (h : SpellsCall formula f args) (ctx : Context) :
    ctx.evaluate formula = Builtin.contain (ctx.call f args) := by
  obtain ⟨name, inner, hcall, hname, rfl⟩ := h
  have hform : HasForm (Text.trim (bodyOf formula.toList)) (Expr.ofFormula formula) :=
    Expr.hasForm_ofBody (bodyOf formula.toList)
  rw [evaluate, hform.unique (.call hcall), hname, Expr.eval, call_ofList]
  rfl

/-- Calls of such a function with the arguments in another order have the same outcome as formulas,
but for the cell that a circular reference names. -/
theorem evaluate_perm {formula formula' : String} {f : Builtin} {args args' : List String}
    (hf : f ∈ Builtin.orderFree) (hperm : args.Perm args') (h : SpellsCall formula f args)
    (h' : SpellsCall formula' f args') {ctx : Context} (hsteady : ctx.Steady) :
    SameButCell (ctx.evaluate formula) (ctx.evaluate formula') := by
  rw [evaluate_of_spellsCall h, evaluate_of_spellsCall h']
  -- A success and a wrong number of arguments are the same in both orders; a circle may be met
  -- elsewhere.
  rcases call_perm hsteady hperm hf with
    ⟨value, hvalue, hvalue'⟩ | ⟨c, d, hc, hd⟩ | ⟨bound, hb, hb'⟩
  · left
    rw [hvalue, hvalue']
  · right
    rw [hc, hd]
    exact ⟨c, d, rfl, rfl⟩
  · left
    rw [hb, hb']

/-- The arguments of `AND`, `OR`, `COUNT` and `COUNTA` may stand in any order, if what is drawn
makes no difference. Called with the arguments in another order, such a function has the same value;
or there is a circular reference both times, perhaps of different cells; or there are too few
arguments both times. A formula that is such a call may be replaced by a call with the arguments in
another order, and every cell of the table shows what it showed before. -/
theorem argument_order :
    (∀ (ctx : Context) (f : Builtin) (args args' : List String), f ∈ Builtin.orderFree →
      args.Perm args' → (ctx.Undrawn fun ctx => ctx.call f args) →
      (ctx.Undrawn fun ctx => ctx.call f args') → ∀ draws draws',
      (∃ value, (ctx.withDraws draws).call f args = .ok value ∧
        (ctx.withDraws draws').call f args' = .ok value) ∨
      (∃ c d, (ctx.withDraws draws).call f args = .error (.circular c) ∧
        (ctx.withDraws draws').call f args' = .error (.circular d)) ∨
      ∃ bound, (ctx.withDraws draws).call f args = .error (.argumentCount f bound args.length) ∧
        (ctx.withDraws draws').call f args' = .error (.argumentCount f bound args.length)) ∧
    ∀ (g : Grid) (d : CellRef) (raw raw' : String) (f : Builtin) (args args' : List String),
      f ∈ Builtin.orderFree → args.Perm args' → SpellsCall raw f args → SpellsCall raw' f args' →
      g.text? d = some raw → isFormula raw → isFormula raw' →
      ∃ g', g.set d raw' = .ok g' ∧ ∀ ambient c,
        ((g.context ambient).Undrawn fun ctx => ctx.settled c) →
        ((g'.context ambient).Undrawn fun ctx => ctx.settled c) →
        ∀ draws, g'.displayText { ambient with draw := draws } c = g.displayText ambient c := by
  constructor
  · intro ctx f args args' hf hperm hdrawn hdrawn' draws draws'
    have hcall : (ctx.withDraws draws).call f args = (ctx.withDraws (.constant 0)).call f args :=
      (hdrawn draws).trans (hdrawn _).symm
    have hcall' : (ctx.withDraws draws').call f args'
        = (ctx.withDraws (.constant 0)).call f args' :=
      (hdrawn' draws').trans (hdrawn' _).symm
    rw [hcall, hcall']
    exact call_perm (ctx.steady_constant 0) hperm hf
  · intro g d raw raw' f args args' hf hperm h h' hraw hformula hformula'
    have hd : g.contains d := by rw [← Grid.isSome_text?, hraw, Option.isSome_some]
    refine ⟨g.put d raw', by rw [Grid.set, if_pos hd], fun ambient c hdrawn hdrawn' draws => ?_⟩
    -- Both tables show what they show if one number is drawn everywhere.
    let still : Ambient := { ambient with draw := .constant 0 }
    have hstill : ((g.put d raw').context still).settled c = (g.context still).settled c :=
      Grid.settled_put hraw hformula hformula' (fun _ => evaluate_perm hf hperm h h')
        ((g.context ambient).steady_constant 0) c
    have hnow : (g.context still).settled c = (g.context ambient).settled c := hdrawn _
    have hthere : ((g.put d raw').context { ambient with draw := draws }).settled c
        = ((g.put d raw').context still).settled c := (hdrawn' draws).trans (hdrawn' _).symm
    exact congrArg Value.display (hthere.trans (hstill.trans hnow))

/-- `B1` refers to itself, and `C1` to the conjunction in `A1`. So inside `A1` the order of the two
decides which circular reference is met first, but the conjunction may be written in either. -/
theorem argument_order_in_circles :
    let g := Grid.ofRows [["=AND(B1,C1)", "=B1", "=A1"]]
    let ctx := (g.context .morning).inside ⟨0, 0⟩
    (ctx.call .and ["B1", "C1"] = .error (.circular ⟨0, 1⟩) ∧
        ctx.call .and ["C1", "B1"] = .error (.circular ⟨0, 0⟩)) ∧
      ((ctx.Undrawn fun ctx => ctx.call .countFilled ["2", "D1"]) ∧
        (ctx.Undrawn fun ctx => ctx.call .countFilled ["D1", "2"]) ∧
        ∀ draws draws', ∃ value,
          (ctx.withDraws draws).call .countFilled ["2", "D1"] = .ok value ∧
          (ctx.withDraws draws').call .countFilled ["D1", "2"] = .ok value) ∧
      ["B1", "C1"].Perm ["C1", "B1"] ∧ SpellsCall "=AND(B1,C1)" .and ["B1", "C1"] ∧
      SpellsCall "= and( C1 ,B1)" .and ["C1", "B1"] ∧ g.text? ⟨0, 0⟩ = some "=AND(B1,C1)" ∧
      ∃ g', g.set ⟨0, 0⟩ "= and( C1 ,B1)" = .ok g' ∧ ∀ ambient c,
        ((g.context ambient).Undrawn fun ctx => ctx.settled c) ∧
        ((g'.context ambient).Undrawn fun ctx => ctx.settled c) ∧
        ∀ draws, g'.displayText { ambient with draw := draws } c = g.displayText ambient c := by
  intro g ctx
  obtain ⟨hcalls, htables⟩ := argument_order
  have hspells : SpellsCall "=AND(B1,C1)" .and ["B1", "C1"] :=
    ⟨"AND".toList, "B1,C1".toList, by decide +kernel, by decide +kernel, by decide +kernel⟩
  have hspells' : SpellsCall "= and( C1 ,B1)" .and ["C1", "B1"] :=
    ⟨"and".toList, " C1 ,B1".toList, by decide +kernel, by decide +kernel, by decide +kernel⟩
  have hperm : ["B1", "C1"].Perm ["C1", "B1"] := .swap _ _ _
  have hraw : g.text? ⟨0, 0⟩ = some "=AND(B1,C1)" := by decide
  -- Nothing is drawn in the grid, neither before nor after the edit.
  have hgrid : g.DrawsNothing := Grid.drawsNothing_of_coordinates (by decide +kernel)
  have hgrid' : (g.put ⟨0, 0⟩ "= and( C1 ,B1)").DrawsNothing :=
    Grid.drawsNothing_of_coordinates (by decide +kernel)
  have hcall : ctx.Undrawn fun ctx => ctx.call .countFilled ["2", "D1"] :=
    undrawn_call hgrid (by decide +kernel) rfl
  have hcall' : ctx.Undrawn fun ctx => ctx.call .countFilled ["D1", "2"] :=
    undrawn_call hgrid (by decide +kernel) rfl
  obtain ⟨g', hset, hshown⟩ :=
    htables g _ _ _ .and _ _ (by decide) hperm hspells hspells' hraw (by decide) (by decide)
  obtain rfl : g.put ⟨0, 0⟩ "= and( C1 ,B1)" = g' := by
    rw [Grid.set, if_pos (by decide)] at hset
    exact Except.ok.inj hset
  refine ⟨⟨by decide +kernel, by decide +kernel⟩, ⟨hcall, hcall', fun draws draws' => ?_⟩, hperm,
    hspells, hspells', hraw, _, hset, fun ambient c => ?_⟩
  · have hvalue : (ctx.withDraws draws).call .countFilled ["2", "D1"] = .ok (.number 1) :=
      (hcall draws).trans (by decide +kernel)
    -- COUNTA fails in neither order, so of the three cases the first is the one that holds.
    rcases hcalls ctx .countFilled ["2", "D1"] ["D1", "2"] (by decide) (.swap _ _ _) hcall hcall'
      draws draws' with hsame | ⟨c, -, hc, -⟩ | ⟨bound, hbound, -⟩
    · exact hsame
    · rw [hvalue] at hc
      cases hc
    · rw [hvalue] at hbound
      cases hbound
  · have hundrawn : (g.context ambient).Undrawn fun ctx => ctx.settled c := undrawn_settled hgrid c
    have hundrawn' : ((g.put ⟨0, 0⟩ "= and( C1 ,B1)").context ambient).Undrawn
        fun ctx => ctx.settled c := undrawn_settled hgrid' c
    exact ⟨hundrawn, hundrawn', hshown ambient c hundrawn hundrawn'⟩

end Context
end FormulaTable
