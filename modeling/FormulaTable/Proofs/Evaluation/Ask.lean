import FormulaTable.Proofs.Builtin.Alike
import FormulaTable.Proofs.Evaluation.Draws
import FormulaTable.Proofs.Evaluation.Plan

/-!
# `FormulaTable.Proofs.Evaluation.Ask`: what asking arguments comes to

A function asks its arguments through `Query`, and an argument is read by its form. The theorems
here take the dialogue away: the numbers of all arguments are gathered from one argument after the
other (`Context.ask_allNumbers`), and so are the texts (`Context.ask_allTexts`); a question about
one argument is about the first of its numbers (`Context.ask_number`) or of its texts
(`Context.ask_text`). Each argument is read at a place of its own, `Context.past` the arguments in
front of it.
-/

set_option autoImplicit false

namespace FormulaTable

section
variable {α β : Type} {read : α → Except Fault (List β)}

/-- From one item, its own list is gathered. -/
theorem gather_singleton (item : α) : gather read [item] = read item := by
  rw [gather, gather]
  cases read item with
  | error why => rfl
  | ok xs => exact congrArg Except.ok (List.append_nil xs)

/-- What has been gathered comes from one of the items. -/
theorem exists_of_mem_gather {items : List α} {xs : List β} {x : β}
    (h : gather read items = .ok xs) (hx : x ∈ xs) :
    ∃ item ∈ items, ∃ here, read item = .ok here ∧ x ∈ here := by
  induction items generalizing xs with
  | nil =>
      obtain rfl : [] = xs := Except.ok.inj h
      simp at hx
  | cons item rest ih =>
      rw [gather] at h
      obtain ⟨here, hread, hmore⟩ := exists_of_bind_ok h
      obtain ⟨others, hrest, hxs⟩ := exists_of_bind_ok hmore
      obtain rfl : here ++ others = xs := Except.ok.inj hxs
      -- It was given by the first item, or by one of the others.
      rcases List.mem_append.mp hx with hx | hx
      · exact ⟨item, List.mem_cons_self, here, hread, hx⟩
      · obtain ⟨other, hother, found⟩ := ih hrest hx
        exact ⟨other, List.mem_cons_of_mem item hother, found⟩

/-- If anything is gathered, every item gives something. -/
theorem exists_of_gather_ok {items : List α} {xs : List β} (h : gather read items = .ok xs) :
    ∀ item ∈ items, ∃ here, read item = .ok here := by
  -- Nothing is gathered unless every item is read.
  induction items generalizing xs with
  | nil =>
      intro item hitem
      cases hitem
  | cons item rest ih =>
      rw [gather] at h
      obtain ⟨here, hhere, hmore⟩ := exists_of_bind_ok h
      obtain ⟨others, hothers, -⟩ := exists_of_bind_ok hmore
      rw [List.forall_mem_cons]
      exact ⟨⟨here, hhere⟩, ih hothers⟩

/-- Where it is known what every item gives, it is known what is gathered. -/
theorem gather_of_forall_ok {items : List α} {give : α → List β}
    (h : ∀ item ∈ items, read item = .ok (give item)) :
    gather read items = .ok (items.flatMap give) := by
  induction items with
  | nil => rfl
  | cons item rest ih =>
      rw [List.forall_mem_cons] at h
      -- The first item gives its list, the others theirs.
      rw [gather, h.1, ih h.2]
      rfl

end

/-! ## Arguments as a function meets them -/

/-- One argument as a function meets it. Its two readings are at places of their own. -/
def Arg.reading (env : Surroundings) (a : Arg) : Reading :=
  { numbers := fun _ => a.numbers (env.toward .numbers)
    texts := fun _ => a.texts (env.toward .texts) }

namespace Context

/-- The context past a number of arguments. -/
def past (ctx : Context) : Nat → Context
  | 0 => ctx
  | count + 1 => (ctx.toward .next).past count

/-- A steady context is the same past any number of arguments. -/
theorem Steady.past_eq {ctx : Context} (h : ctx.Steady) (count : Nat) : ctx.past count = ctx := by
  induction count with
  | zero => rfl
  | succ count ih => rw [past, h.toward_eq, ih]

/-- The path past some arguments is the path in front of them, and so is all but the draws. -/
theorem past_eq_withDraws (ctx : Context) (count : Nat) :
    ∃ draws, ctx.past count = ctx.withDraws draws := by
  induction count generalizing ctx with
  | zero => exact ⟨_, ctx.withDraws_self.symm⟩
  | succ count ih => exact ih (ctx.toward .next)

/-- An undrawn outcome is the same past any number of arguments, behind any turn. -/
theorem Undrawn.past_eq {α : Type} {ctx : Context} {outcome : Context → α}
    (h : ctx.Undrawn outcome) (draws : Draws) (count : Nat) (turn : Turn) :
    outcome (((ctx.withDraws draws).past count).toward turn) = outcome ctx := by
  obtain ⟨there, hthere⟩ := (ctx.withDraws draws).past_eq_withDraws count
  rw [hthere]
  exact h (there.toward turn)

variable (ctx : Context)

/-- The text of an argument as a function meets it. -/
def reading (argument : String) : Reading :=
  (Arg.ofString argument).reading ctx.surroundings

/-- The numbers that an argument gives. -/
def argumentNumbers (argument : String) : Except Fault (List Float) :=
  (Arg.ofString argument).numbers (ctx.toward .numbers).surroundings

/-- The texts that an argument gives. -/
def argumentTexts (argument : String) : Except Fault (List String) :=
  (Arg.ofString argument).texts (ctx.toward .texts).surroundings

/-- The first argument is met where the call stands, the others past it. -/
theorem readings_cons (argument : String) (rest : List String) :
    ctx.readings (argument :: rest) = ctx.reading argument :: (ctx.toward .next).readings rest := by
  rw [readings, List.map_cons, Arg.readings]
  rfl

/-- Each argument is met past those in front of it. -/
theorem getElem?_readings (arguments : List String) (index : Nat) :
    (ctx.readings arguments)[index]? = arguments[index]?.map (ctx.past index).reading := by
  -- Every argument in front is passed by one turn.
  induction arguments generalizing ctx index with
  | nil => rw [readings, List.map_nil, Arg.readings]; rfl
  | cons argument rest ih =>
      rw [readings_cons]
      cases index with
      | zero => rfl
      | succ index => exact ih (ctx.toward .next) index

/-- There are as many readings as arguments. -/
theorem length_readings (arguments : List String) :
    (ctx.readings arguments).length = arguments.length := by
  induction arguments generalizing ctx with
  | nil => rw [readings, List.map_nil, Arg.readings]; rfl
  | cons argument rest ih => rw [readings_cons, List.length_cons, List.length_cons, ih]

/-- Whatever is met is one of the arguments, with some draws. -/
theorem exists_of_mem_readings {ctx : Context} {arguments : List String} {r : Reading}
    (h : r ∈ ctx.readings arguments) :
    ∃ draws, ∃ argument ∈ arguments, (ctx.withDraws draws).reading argument = r := by
  obtain ⟨index, hindex⟩ := List.getElem?_of_mem h
  rw [getElem?_readings, Option.map_eq_some_iff] at hindex
  obtain ⟨argument, hargument, hr⟩ := hindex
  obtain ⟨draws, hdraws⟩ := ctx.past_eq_withDraws index
  exact ⟨draws, argument, List.mem_of_getElem? hargument, hdraws ▸ hr⟩

/-- In a steady context, arguments are met wherever they stand. -/
theorem Steady.readings_eq_map {ctx : Context} (h : ctx.Steady) (arguments : List String) :
    ctx.readings arguments = arguments.map ctx.reading := by
  induction arguments with
  | nil => rw [readings, List.map_nil, Arg.readings]; rfl
  | cons argument rest ih => rw [readings_cons, h.toward_eq, ih, List.map_cons]

/-- A question about the numbers of all arguments is answered by what is gathered from them. -/
theorem ask_allNumbers_eq (arguments : List String) :
    ctx.ask arguments .allNumbers = gather (fun r => r.numbers ()) (ctx.readings arguments) := by
  show gather (fun r => r.numbers ()) (ctx.readings arguments) >>= _ = _
  cases gather (fun r : Reading => r.numbers ()) (ctx.readings arguments) <;> rfl

/-- A question about the texts of all arguments is answered by what is gathered from them. -/
theorem ask_allTexts_eq (arguments : List String) :
    ctx.ask arguments .allTexts = gather (fun r => r.texts ()) (ctx.readings arguments) := by
  show gather (fun r => r.texts ()) (ctx.readings arguments) >>= _ = _
  cases gather (fun r : Reading => r.texts ()) (ctx.readings arguments) <;> rfl

/-- The numbers of the first argument come in front of those of the others. -/
theorem ask_allNumbers_cons (argument : String) (rest : List String) :
    ctx.ask (argument :: rest) .allNumbers = do
      let here ← ctx.argumentNumbers argument
      let others ← (ctx.toward .next).ask rest .allNumbers
      return here ++ others := by
  rw [ask_allNumbers_eq, readings_cons, gather, ask_allNumbers_eq]
  rfl

/-- The numbers of one argument on its own are those that it gives. -/
theorem ask_allNumbers_singleton (argument : String) :
    ctx.ask [argument] .allNumbers = ctx.argumentNumbers argument := by
  rw [ask_allNumbers_eq, readings_cons, readings, List.map_nil, Arg.readings, gather_singleton]
  rfl

/-- The texts of one argument on its own are those that it gives. -/
theorem ask_allTexts_singleton (argument : String) :
    ctx.ask [argument] .allTexts = ctx.argumentTexts argument := by
  rw [ask_allTexts_eq, readings_cons, readings, List.map_nil, Arg.readings, gather_singleton]
  rfl

/-- In a steady context, the numbers of all arguments are those of one argument after the other. -/
theorem Steady.ask_allNumbers {ctx : Context} (h : ctx.Steady) (arguments : List String) :
    ctx.ask arguments .allNumbers = gather ctx.argumentNumbers arguments := by
  rw [ask_allNumbers_eq, h.readings_eq_map, gather_map]
  rfl

/-- In a steady context, the texts of all arguments are those of one argument after the other. -/
theorem Steady.ask_allTexts {ctx : Context} (h : ctx.Steady) (arguments : List String) :
    ctx.ask arguments .allTexts = gather ctx.argumentTexts arguments := by
  rw [ask_allTexts_eq, h.readings_eq_map, gather_map]
  rfl

section
variable {ctx} {arguments : List String} {index : Nat} {argument : String}

/-- A question about one argument is put to that argument. -/
theorem pick_readings (h : arguments[index]? = some argument) :
    (Source.only index).pick (ctx.readings arguments) = [(ctx.past index).reading argument] := by
  rw [Source.pick, getElem?_readings, h]
  rfl

/-- A question about the numbers of one argument is answered by what the argument gives. -/
theorem run_numbers_only {α : Type} (h : arguments[index]? = some argument)
    (next : List Float → Query α) :
    (Query.numbers (.only index) next).run (ctx.readings arguments)
      = (ctx.past index).argumentNumbers argument >>= fun xs =>
        (next xs).run (ctx.readings arguments) := by
  rw [Query.run, pick_readings h, gather_singleton]
  rfl

/-- A question about the texts of one argument is answered by what the argument gives. -/
theorem run_texts_only {α : Type} (h : arguments[index]? = some argument)
    (next : List String → Query α) :
    (Query.texts (.only index) next).run (ctx.readings arguments)
      = (ctx.past index).argumentTexts argument >>= fun texts =>
        (next texts).run (ctx.readings arguments) := by
  rw [Query.run, pick_readings h, gather_singleton]
  rfl

/-- The number of one argument is its first one, or zero. -/
theorem ask_number (h : arguments[index]? = some argument) :
    ctx.ask arguments (.number index)
      = (fun xs => xs.head?.getD 0) <$> (ctx.past index).argumentNumbers argument := by
  rw [ask, Query.number, run_numbers_only h]
  cases (ctx.past index).argumentNumbers argument <;> rfl

/-- The text of one argument is its first one, or empty. -/
theorem ask_text (h : arguments[index]? = some argument) :
    ctx.ask arguments (.text index)
      = (fun texts => texts.head?.getD "") <$> (ctx.past index).argumentTexts argument := by
  rw [ask, Query.text, run_texts_only h]
  cases (ctx.past index).argumentTexts argument <;> rfl

/-- A call with too few arguments or too many fails before any of them is read. -/
theorem call_of_brokenBound {f : Builtin} {bound : ArgumentBound}
    (h : f.brokenBound? arguments.length = some bound) :
    ctx.call f arguments = .error (.argumentCount f bound arguments.length) := by
  rw [call, Builtin.call, length_readings, h]

/-- A call with a number of arguments that the function takes is the dialogue of the function. -/
theorem call_eq_ask {f : Builtin} (h : f.brokenBound? arguments.length = none) :
    ctx.call f arguments = ctx.ask arguments (f.query ctx.ambient arguments.length) := by
  rw [call, Builtin.call, length_readings, h]
  rfl

end

end Context
end FormulaTable
