import FormulaTable.Proofs.Evaluation.Ask
import FormulaTable.Proofs.Formula.Leaf

/-!
# `FormulaTable.Proofs.Evaluation.QuotedTexts`: quoted texts reach a function as they are

A quoted text may have anything in it but the mark that it is quoted with. As an argument it passes
the scan for the closing parenthesis, the cut at commas and the trimming of blanks, and the marks
are taken off at the end. `Context.evaluate_of_quotations` says that all this leaves the text as it
is, whichever function is called with it and whatever is quoted beside it.

All this is described for any listed arguments elsewhere (`Expr.ofFormula_callText`), and a quoted
text is one of the arguments that may be listed (`Quotation.isArgument`). It is left to see that a
comma and a space between the arguments list them (`listed_intercalate`).
-/

set_option autoImplicit false

namespace FormulaTable

/-! ## The list of arguments -/

/-- Arguments with a comma and a space between them are listed. -/
theorem listed_intercalate (texts : List (List Char)) :
    Listed texts ([',', ' '].intercalate texts) := by
  -- The space belongs to the argument behind it, so the blanks before the first one vary.
  have hgen : ∀ before : List Char, Text.AllBlank before →
      Listed texts (before ++ [',', ' '].intercalate texts) := by
    induction texts with
    | nil =>
        intro before hbefore
        rw [List.intercalate_nil, List.append_nil]
        exact .none hbefore
    | cons first rest ih =>
        intro before hbefore
        cases rest with
        | nil =>
            rw [List.intercalate_singleton]
            exact .single hbefore
        | cons next rest =>
            have hmore : Listed (first :: next :: rest)
                (before ++ first ++ ',' :: ([' '] ++ [',', ' '].intercalate (next :: rest))) :=
              .cons hbefore (ih [' '] (by decide))
            rw [List.append_assoc] at hmore
            rw [List.intercalate_cons_cons, List.append_assoc]
            exact hmore
  exact hgen [] Text.allBlank_nil

/-- Quoted texts with a comma and a space between them. -/
def Quotation.listed (quotations : List Quotation) : List Char :=
  [',', ' '].intercalate (quotations.map Quotation.chars)

/-! ## The call -/

/-- What a quoted text is to a function: its characters, and no number. -/
def Quotation.reading (q : Quotation) : Reading :=
  { numbers := fun _ => .ok [], texts := fun _ => .ok [String.ofList q.inside] }

/-- Texts are joined by putting their characters one after the other. -/
theorem Quotation.join_inside (quotations : List Quotation) :
    String.join (quotations.flatMap fun q => [String.ofList q.inside])
      = String.ofList (quotations.flatMap Quotation.inside) := by
  induction quotations with
  | nil => rfl
  | cons q quotations ih =>
      rw [List.flatMap_cons, List.flatMap_cons, List.singleton_append, String.join_cons, ih,
        String.ofList_append]

/-- The arguments of a call with quoted texts are these texts, without their marks. -/
theorem Expr.ofFormula_quotations {name : List Char} (hname : IsCallName name)
    (quotations : List Quotation) :
    Expr.ofFormula (String.ofList ('=' :: callText name (Quotation.listed quotations)))
      = .call (Builtin.ofName? name)
          (quotations.map fun q => .plain (String.ofList q.inside)) := by
  have hlisted : Listed (quotations.map Quotation.chars) (Quotation.listed quotations) :=
    listed_intercalate _
  have harguments : ∀ text ∈ quotations.map Quotation.chars, IsArgument text := by
    intro text htext
    obtain ⟨q, -, rfl⟩ := List.mem_map.mp htext
    exact q.isArgument
  -- Each argument is a quotation, the first form an argument is tried for.
  have hread : (quotations.map Quotation.chars).map Arg.ofChars
      = quotations.map fun q => .plain (String.ofList q.inside) := by
    rw [List.map_map]
    refine List.map_congr_left fun q _ => ?_
    exact (Arg.form_ofChars _).unique (.quoted q.unquote?_chars)
  rw [Expr.ofFormula_callText hname harguments hlisted, hread]

/-- Quoted texts are met as they stand between their marks, wherever they are read. -/
theorem Quotation.readings_eq_map (env : Surroundings) (quotations : List Quotation) :
    Arg.readings env (quotations.map fun q => .plain (String.ofList q.inside))
      = quotations.map Quotation.reading := by
  induction quotations generalizing env with
  | nil => rw [List.map_nil, Arg.readings, List.map_nil]
  | cons q quotations ih =>
      rw [List.map_cons, Arg.readings, ih, List.map_cons, Quotation.reading, Arg.numbers, Arg.texts]

namespace Context

/-- A function that is called with quoted texts meets them as they stand between their marks. -/
theorem evaluate_of_quotations (ctx : Context) {name : List Char} (hname : IsCallName name)
    (quotations : List Quotation) :
    ctx.evaluate (String.ofList ('=' :: callText name (Quotation.listed quotations)))
      = Builtin.callNamed ctx.ambient (Builtin.ofName? name)
          (quotations.map Quotation.reading) := by
  rw [evaluate, Expr.ofFormula_quotations hname, Expr.eval, Quotation.readings_eq_map]
  rfl

/-- `CONCAT` puts quoted texts together as they are. -/
theorem concat_of_quotations (ctx : Context) (first : Quotation) (rest : List Quotation) :
    ctx.evaluate (String.ofList
        ('=' :: callText "CONCAT".toList (Quotation.listed (first :: rest))))
      = .ok (.text (String.ofList ((first :: rest).flatMap Quotation.inside))) := by
  have hname : Builtin.ofName? "CONCAT".toList = some .concat := by decide +kernel
  have htexts : gather (fun r => r.texts ())
      (Source.all.pick ((first :: rest).map Quotation.reading))
      = .ok ((first :: rest).flatMap fun q => [String.ofList q.inside]) := by
    rw [Source.pick, gather_map]
    exact gather_of_forall_ok fun q _ => rfl
  rw [evaluate_of_quotations ctx (by decide), hname, ← Quotation.join_inside]
  show Builtin.contain (gather _ _ >>= fun texts => .ok (.text (String.join texts))) = _
  rw [htexts]
  rfl

end Context
end FormulaTable
