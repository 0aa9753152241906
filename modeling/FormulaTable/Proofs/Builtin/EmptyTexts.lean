import FormulaTable.Proofs.Builtin.Alike

/-!
# `FormulaTable.Proofs.Builtin.EmptyTexts`: functions that take no notice of empty texts

Most functions that read all texts of their arguments leave empty ones out, and those that read the
text of one argument take the first, with a missing one as empty. So they make the same of a range
whether or not blank cells are added to it, as long as its first text stays. The exceptions are
`COUNTIF` and `SUMIF`, which look at every text of a range: the text looked for may be empty, and
the texts are partners by their places. `Builtin.respects_sameButEmpty` is the law for all others.

The dialogues of functions are gone through once (`Builtin.query_ignoresEmpty`). That a dialogue
comes to the same end with related arguments is an induction over the dialogue
(`Query.run_congr_of_ignoresEmpty`).
-/

set_option autoImplicit false

namespace FormulaTable

/-- Two lists have the same texts in the same order, empty ones left out. -/
def SameFilled (xs ys : List String) : Prop :=
  (xs.filter fun s => !s.isEmpty) = ys.filter fun s => !s.isEmpty

/-- Two lists are the same up to empty texts, and begin with the same text; an empty list counts as
one that begins with an empty text. -/
structure SameButEmpty (xs ys : List String) : Prop where
  filled : SameFilled xs ys
  first : xs.head?.getD "" = ys.head?.getD ""

theorem SameButEmpty.refl (xs : List String) : SameButEmpty xs xs :=
  ⟨rfl, rfl⟩

/-- Lists with the same filled texts stay such lists if others are put behind them. -/
theorem SameFilled.append {xs ys xs' ys' : List String} (h : SameFilled xs ys)
    (h' : SameFilled xs' ys') : SameFilled (xs ++ xs') (ys ++ ys') := by
  rw [SameFilled, List.filter_append, List.filter_append, h, h']

/-! ## Answers to questions -/

/-- Answers that differ in empty texts only. A question about one argument is about its first text,
a question about all arguments about all texts that are not empty. -/
def Source.SameAnswer : Source → List String → List String → Prop
  | .all, xs, ys => SameFilled xs ys
  | .only _, xs, ys => xs.head?.getD "" = ys.head?.getD ""

/-- Arguments whose texts are the same up to empty ones answer every question in the same way. -/
theorem Source.gather_texts_alike (source : Source) {arguments arguments' : List Reading}
    (h : List.Forall₂ (Reading.Alike SameButEmpty) arguments arguments') :
    SameOutcome source.SameAnswer (gather (fun r => r.texts ()) (source.pick arguments))
      (gather (fun r => r.texts ()) (source.pick arguments')) := by
  have hpicked := source.pick_forall₂ h
  cases source with
  | all =>
      have hfilled : List.Forall₂
          (fun r r' : Reading => SameOutcome SameFilled (r.texts ()) (r'.texts ()))
          (Source.all.pick arguments) (Source.all.pick arguments') :=
        hpicked.imp fun r r' hr => hr.texts.imp fun _ _ _ _ htexts => htexts.filled
      -- Only the filled texts count, and these are the same one argument after the other.
      exact gather_alike (S := SameFilled) rfl SameFilled.append hfilled
  | only index =>
      have hone : List.Forall₂ (Reading.Alike SameButEmpty) arguments[index]?.toList
          arguments'[index]?.toList := hpicked
      show SameOutcome _ (gather _ arguments[index]?.toList) (gather _ arguments'[index]?.toList)
      rcases forall₂_toList hone with ⟨hnone, hnone'⟩ | ⟨r, r', hsome, hsome', hr⟩
      · rw [hnone, hnone']
        rfl
      · rw [hsome, hsome']
        refine hr.texts.bind fun xs ys htexts => ?_
        show (xs ++ []).head?.getD "" = (ys ++ []).head?.getD ""
        rw [List.append_nil, List.append_nil]
        -- The one argument that is read gives the same first text.
        exact htexts.first

/-! ## Dialogues that take no notice of empty texts -/

namespace Query

variable {α : Type}

/-- A dialogue goes on in the same way with answers that differ in empty texts only. -/
def IgnoresEmpty : Query α → Prop
  | .done _ => True
  | .refuse _ => True
  | .numbers _ next => ∀ xs, (next xs).IgnoresEmpty
  | .texts source next =>
    (∀ xs ys, source.SameAnswer xs ys → next xs = next ys) ∧ ∀ xs, (next xs).IgnoresEmpty

/-- Such a dialogue comes to the same end with arguments that are the same up to empty texts. -/
theorem run_congr_of_ignoresEmpty {q : Query α} (hq : q.IgnoresEmpty)
    {arguments arguments' : List Reading}
    (h : List.Forall₂ (Reading.Alike SameButEmpty) arguments arguments') :
    q.run arguments = q.run arguments' := by
  -- Along the dialogue. The numbers are the same, and the texts differ in empty ones, which make no
  -- difference to what comes next.
  induction q with
  | done a => rfl
  | refuse why => rfl
  | numbers source next ih =>
      rw [run, run, source.gather_numbers_eq h]
      exact bind_congr fun xs => ih xs (hq xs)
  | texts source next ih =>
      rw [run, run, ← sameOutcome_eq]
      refine (source.gather_texts_alike h).bind fun xs ys hxs => ?_
      rw [hq.1 xs ys hxs]
      exact sameOutcome_eq.mpr (ih ys (hq.2 ys))

/-- A dialogue that goes one way or the other ignores empty texts if the way it goes does. -/
theorem ignoresEmpty_ite (c : Prop) [Decidable c] (p q : Query α) :
    (if c then p else q).IgnoresEmpty ↔ if c then p.IgnoresEmpty else q.IgnoresEmpty := by
  split <;> rfl

end Query

namespace Builtin

open Meaning Query

/-- Empty texts add nothing to the texts that are joined. -/
theorem join_congr {xs ys : List String} (h : SameFilled xs ys) :
    String.join xs = String.join ys := by
  have hfilter : ∀ texts : List String,
      String.join (texts.filter fun s => !s.isEmpty) = String.join texts := by
    intro texts
    induction texts with
    | nil => rfl
    | cons s rest ih =>
        by_cases hs : s.isEmpty
        · obtain rfl : s = "" := by simpa using hs
          simp [ih]
        · simp [hs, ih]
  rw [← hfilter xs, ← hfilter ys, h]

/-- As many texts are filled in lists with the same filled texts. -/
theorem filled_congr {xs ys : List String} (h : SameFilled xs ys) : filled xs = filled ys := by
  rw [filled, filled, List.countP_eq_length_filter, List.countP_eq_length_filter, h]

/-- A branch of a conditional is asked for its first text, and the first one is the same. -/
theorem branch_ignoresEmpty (index : Nat) : (branch index).IgnoresEmpty := by
  intro xs
  cases hx : xs.head? with
  | none =>
      simp only [Query.andThen, hx]
      refine ⟨fun texts texts' h => ?_, fun _ => trivial⟩
      show done (Value.text (texts.head?.getD "")) = done (Value.text (texts'.head?.getD ""))
      rw [h]
  | some n =>
      simp only [Query.andThen, hx]
      trivial

/-- All functions but `COUNTIF` and `SUMIF` take no notice of empty texts. -/
theorem query_ignoresEmpty (ambient : Ambient) (count : Nat) {f : Builtin} (hcountIf : f ≠ .countIf)
    (hsumIf : f ≠ .sumIf) : (f.query ambient count).IgnoresEmpty := by
  cases f
  case countIf => exact absurd rfl hcountIf
  case sumIf => exact absurd rfl hsumIf
  case ifElse =>
    intro xs
    simp only [Query.andThen]
    generalize (if xs.head?.getD 0 != 0 then 1 else 2) = chosen
    rw [ignoresEmpty_ite]
    split
    · exact branch_ignoresEmpty chosen
    · trivial
  -- The three functions that read all texts.
  case concat | concatenate =>
    refine ⟨fun xs ys h => ?_, fun _ => trivial⟩
    show done (Value.text (String.join xs)) = done (Value.text (String.join ys))
    rw [join_congr h]
  case countFilled =>
    refine ⟨fun xs ys h => ?_, fun _ => trivial⟩
    have hsame : filled xs = filled ys := filled_congr h
    exact congrArg (fun n => done (Value.number (Float.ofNat n))) hsame
  case unique =>
    refine ⟨fun xs ys h => ?_, fun _ => trivial⟩
    exact congrArg (fun texts => done (Value.text (", ".intercalate (distinct texts)))) h
  -- The others ask for numbers, or for one text each time.
  all_goals
    simp +contextual [query, overNumber, overNumbers, overText, overDate, decideNumbers, decideText,
      negation, roundToMultiple, endOf, partOf, lengthOf, repetition, replaced, rounded, remainder,
      squareRoot, toPower, drawBetween, Query.number, Query.number?, Query.text, allNumbers,
      bind, pure, Query.andThen, IgnoresEmpty, ignoresEmpty_ite, Source.SameAnswer]

/-- All functions but `COUNTIF` and `SUMIF` make the same of arguments that are the same up to empty
texts. -/
theorem respects_sameButEmpty {f : Builtin} (hcountIf : f ≠ .countIf) (hsumIf : f ≠ .sumIf) :
    f.Respects (· = ·) SameButEmpty := by
  intro ambient ambient' arguments arguments' hambient h
  obtain rfl := Ambient.eq_of_related hambient
  have hlength : arguments.length = arguments'.length := h.length_eq
  rw [call, call, ← hlength]
  cases f.brokenBound? arguments.length with
  | some bound => rfl
  | none => exact run_congr_of_ignoresEmpty (query_ignoresEmpty ambient _ hcountIf hsumIf) h

end Builtin
end FormulaTable
