import FormulaTable.Proofs.Builtin.Question
import FormulaTable.Proofs.Evaluation.Plan

/-!
# `FormulaTable.Proofs.Evaluation.Entered`: the cells that a plan may enter, and those it must

Two predicates on plans, each an induction on the tree:

* `Plan.EntersOnly` bounds from above: whatever the values of cells are, every cell entered, every
  refusal and every result is of a given kind. `Plan.error_of_entersOnly` says what that means for
  an evaluation that fails, and `Plan.ok_of_entersOnly` for one that succeeds.
* `Plan.MustEnter` bounds from below: whatever the values of cells are, the plan does not end before
  it has entered a given cell. `Plan.ok_of_mustEnter` says that an evaluation succeeds only if that
  cell has a value.

The lemmas between them carry both through lists of arguments, through the dialogue of a function
with its arguments and through the containment of a call.
-/

set_option autoImplicit false

namespace FormulaTable

namespace Plan

variable {α β : Type}

/-- Every cell that a plan may enter, every refusal and every result of it satisfy the given
predicates, whatever the values of cells are. -/
def EntersOnly (entered : CellRef → Prop) (refused : Fault → Prop) (result : α → Prop) :
    Plan α → Prop
  | .done a => result a
  | .refuse why => refused why
  | .enter _ cell next => entered cell ∧ ∀ value, (next value).EntersOnly entered refused result

/-- A plan never refuses. -/
def NeverRefuses (p : Plan α) : Prop :=
  p.EntersOnly (fun _ => True) (fun _ => False) fun _ => True

/-- A plan does not end before it has entered a cell, whatever the values of cells are. -/
def MustEnter (c : CellRef) : Plan α → Prop
  | .done _ => False
  | .refuse _ => False
  | .enter _ cell next => cell = c ∨ ∀ value, (next value).MustEnter c

variable {visit : Draws → CellRef → Except Fault Value} {entered entered' : CellRef → Prop}
  {refused refused' : Fault → Prop} {result result' : α → Prop} {c : CellRef}

/-! ## What follows for an evaluation -/

/-- An evaluation that fails was refused, or it entered a cell that fails in the same way. -/
theorem error_of_entersOnly {p : Plan α} (h : p.EntersOnly entered refused result) {why : Fault}
    (hrun : p.run visit = .error why) :
    refused why ∨ ∃ draws cell, entered cell ∧ visit draws cell = .error why := by
  induction p with
  | done a => simp at hrun
  | refuse fault =>
      obtain rfl : fault = why := by simpa using hrun
      exact Or.inl h
  | enter draws cell next ih =>
      rw [run_enter] at hrun
      -- Either the cell that is entered fails, or the plan goes on with its value.
      cases hcell : visit draws cell with
      | error fault =>
          obtain rfl : fault = why := by simpa [hcell, Except.bind] using hrun
          exact Or.inr ⟨draws, cell, h.1, hcell⟩
      | ok value =>
          rw [hcell] at hrun
          exact ih value (h.2 value) hrun

/-- An evaluation that succeeds has one of the results. -/
theorem ok_of_entersOnly {p : Plan α} (h : p.EntersOnly entered refused result) {a : α}
    (hrun : p.run visit = .ok a) : result a := by
  induction p with
  | done b =>
      obtain rfl : b = a := by simpa using hrun
      exact h
  | refuse fault => simp at hrun
  | enter draws cell next ih =>
      rw [run_enter] at hrun
      cases hcell : visit draws cell with
      | error fault => simp [hcell, Except.bind] at hrun
      | ok value =>
          rw [hcell] at hrun
          exact ih value (h.2 value) hrun

/-- An evaluation that succeeds has found a value in every cell it must enter. -/
theorem ok_of_mustEnter {p : Plan α} (h : p.MustEnter c) {a : α} (hrun : p.run visit = .ok a) :
    ∃ draws value, visit draws c = .ok value := by
  induction p with
  | done b => exact h.elim
  | refuse fault => exact h.elim
  | enter draws cell next ih =>
      rw [run_enter] at hrun
      cases hcell : visit draws cell with
      | error fault => simp [hcell, Except.bind] at hrun
      | ok value =>
          rw [hcell] at hrun
          rcases h with rfl | h
          · exact ⟨draws, value, hcell⟩
          · -- Another cell was entered first, and the rest of the plan still has to enter this one.
            exact ih value (h value) hrun

/-! ## Plans put together -/

/-- What is entered, refused and resulted in is also of any wider kind. -/
theorem EntersOnly.mono {p : Plan α} (h : p.EntersOnly entered refused result)
    (hentered : ∀ c, entered c → entered' c) (hrefused : ∀ why, refused why → refused' why)
    (hresult : ∀ a, result a → result' a) : p.EntersOnly entered' refused' result' := by
  induction p with
  | done a => exact hresult a h
  | refuse why => exact hrefused why h
  | enter draws cell next ih => exact ⟨hentered cell h.1, fun value => ih value (h.2 value)⟩

/-- A plan whose refusals are of no kind never refuses. -/
theorem EntersOnly.neverRefuses {p : Plan α} (h : p.EntersOnly entered (fun _ => False) result) :
    p.NeverRefuses :=
  h.mono (fun _ _ => trivial) (fun _ => id) fun _ _ => trivial

/-- A plan that goes on enters and refuses what its two parts do. -/
theorem EntersOnly.bind {p : Plan α} {more : α → Plan β} {final : β → Prop}
    (hp : p.EntersOnly entered refused result)
    (hmore : ∀ a, result a → (more a).EntersOnly entered refused final) :
    (p >>= more).EntersOnly entered refused final := by
  show (p.andThen more).EntersOnly entered refused final
  induction p with
  | done a => exact hmore a hp
  | refuse why => exact hp
  | enter draws cell next ih => exact ⟨hp.1, fun value => ih value (hp.2 value)⟩

/-- Readings that are gathered enter and refuse what each of them does. -/
theorem EntersOnly.gather {read : α → Plan (List β)} {items : List α}
    (h : ∀ item ∈ items, (read item).EntersOnly entered refused fun _ => True) :
    (Plan.gather read items).EntersOnly entered refused fun _ => True := by
  induction items with
  | nil => trivial
  | cons item rest ih =>
      refine EntersOnly.bind (h item List.mem_cons_self) fun here _ => ?_
      refine EntersOnly.bind (ih fun other hother => h other (List.mem_cons_of_mem item hother)) ?_
      exact fun others _ => trivial

/-- A cell that must be entered at first must be entered. -/
theorem MustEnter.bind {p : Plan α} (h : p.MustEnter c) (more : α → Plan β) :
    (p >>= more).MustEnter c := by
  show (p.andThen more).MustEnter c
  induction p with
  | done a => exact h.elim
  | refuse why => exact h.elim
  | enter draws cell next ih => exact h.imp_right fun h value => ih value (h value)

/-- A cell that must be entered afterwards must be entered, since the first part cannot refuse. -/
theorem mustEnter_bind {p : Plan α} {more : α → Plan β}
    (hp : p.NeverRefuses) (h : ∀ a, (more a).MustEnter c) :
    (p >>= more).MustEnter c := by
  show (p.andThen more).MustEnter c
  induction p with
  | done a => exact h a
  | refuse why => exact hp.elim
  | enter draws cell next ih => exact Or.inr fun value => ih value (hp.2 value)

/-- A cell that one of several readings must enter must be entered when they are gathered. -/
theorem mustEnter_gather {read : α → Plan (List β)} {items : List α} {item : α}
    (hitem : item ∈ items) (h : (read item).MustEnter c)
    (hread : ∀ item ∈ items, (read item).NeverRefuses) :
    (Plan.gather read items).MustEnter c := by
  induction items with
  | nil => simp at hitem
  | cons first rest ih =>
      rw [Plan.gather]
      rcases List.mem_cons.mp hitem with rfl | hrest
      · exact h.bind _
      · -- The readings before it do not refuse, so its turn comes.
        refine mustEnter_bind (hread first List.mem_cons_self) fun here => ?_
        exact (ih hrest fun other hother => hread other (List.mem_cons_of_mem first hother)).bind _

/-! ## Calls -/

/-- Containing a call takes its refusals away, unless one is a circular reference. -/
theorem EntersOnly.contain {p : Plan Value} {result : Value → Prop}
    (h : p.EntersOnly entered refused result) (hrefused : ∀ cell, ¬ refused (.circular cell)) :
    p.contain.EntersOnly entered (fun _ => False)
      fun value => result value ∨ value = .sentinel .failed := by
  induction p with
  | done value =>
      cases value with
      | number n =>
          -- A number that is not finite becomes the sentinel of a failed function.
          rw [Plan.contain, Builtin.contain]
          split
          · exact Or.inl h
          · exact Or.inr rfl
      | _ => exact Or.inl h
  | refuse why =>
      cases why with
      | circular cell => exact hrefused cell h
      | _ => exact Or.inr rfl
  | enter draws cell next ih => exact ⟨h.1, fun value => ih value (h.2 value)⟩

/-- Containing a call leaves the cells in place. -/
theorem MustEnter.contain {p : Plan Value} (h : p.MustEnter c) : p.contain.MustEnter c := by
  induction p with
  | done value => exact h.elim
  | refuse why => exact h.elim
  | enter draws cell next ih => exact h.imp_right fun h value => ih value (h value)

end Plan

namespace ReadingPlan

/-- One reading of an argument enters only cells of a kind, and never refuses. -/
def EntersOnly (entered : CellRef → Prop) (r : ReadingPlan) : ReadingKind → Prop
  | .numbers => r.numbers.EntersOnly entered (fun _ => False) fun _ => True
  | .texts => r.texts.EntersOnly entered (fun _ => False) fun _ => True

/-- A reading that enters only cells of a kind enters only cells of any wider kind. -/
theorem EntersOnly.mono {entered entered' : CellRef → Prop} {r : ReadingPlan} {kind : ReadingKind}
    (h : r.EntersOnly entered kind) (hentered : ∀ c, entered c → entered' c) :
    r.EntersOnly entered' kind := by
  cases kind with
  | numbers => exact Plan.EntersOnly.mono h hentered (fun _ => id) fun _ => id
  | texts => exact Plan.EntersOnly.mono h hentered (fun _ => id) fun _ => id

/-- One reading of an argument must enter a cell. -/
def MustEnter (c : CellRef) (r : ReadingPlan) : ReadingKind → Prop
  | .numbers => r.numbers.MustEnter c
  | .texts => r.texts.MustEnter c

end ReadingPlan

/-- The arguments that a question is about are those at the places it covers. -/
theorem Source.mem_pick {α : Type} {source : Source} {arguments : List α} {a : α} :
    a ∈ source.pick arguments ↔ ∃ i, source.Covers i ∧ arguments[i]? = some a := by
  cases source with
  | all => simp [pick, Covers, List.mem_iff_getElem?]
  | only index => simp [pick, Covers]

namespace Query

variable {α : Type} {arguments : List ReadingPlan} {entered : CellRef → Prop}

/-- A dialogue enters only what the readings it asks for enter, and refuses only the arguments. -/
theorem plan_entersOnly {q : Query α} {asked : ReadingKind → Nat → Prop} {result : α → Prop}
    (hq : q.AsksOnly asked result)
    (h : ∀ kind i r, asked kind i → arguments[i]? = some r → r.EntersOnly entered kind) :
    (q.plan arguments).EntersOnly entered (fun why => ∃ fault, why = .argument fault) result := by
  induction q with
  | done a => exact hq
  | refuse why => exact ⟨why, rfl⟩
  | numbers source next ih =>
      refine Plan.EntersOnly.bind (Plan.EntersOnly.gather fun r hr => ?_) fun xs _ =>
        ih xs (hq.2 xs)
      -- The argument read stands at a place that the question covers.
      obtain ⟨i, hi, hget⟩ := Source.mem_pick.mp hr
      have hr : r.EntersOnly entered .numbers := h .numbers i r (hq.1 i hi) hget
      exact Plan.EntersOnly.mono hr (fun _ => id) (fun _ => False.elim) fun _ => id
  | texts source next ih =>
      refine Plan.EntersOnly.bind (Plan.EntersOnly.gather fun r hr => ?_) fun xs _ =>
        ih xs (hq.2 xs)
      obtain ⟨i, hi, hget⟩ := Source.mem_pick.mp hr
      have hr : r.EntersOnly entered .texts := h .texts i r (hq.1 i hi) hget
      exact Plan.EntersOnly.mono hr (fun _ => id) (fun _ => False.elim) fun _ => id

/-- A dialogue enters what a reading it must ask for must enter. No reading refuses, so nothing
keeps the dialogue from coming that far. -/
theorem plan_mustEnter {q : Query α} {kind : ReadingKind} {index : Nat} {r : ReadingPlan}
    {c : CellRef} (hq : q.MustAsk kind index) (hget : arguments[index]? = some r)
    (hr : r.MustEnter c kind)
    (h : ∀ r ∈ arguments, r.numbers.NeverRefuses ∧ r.texts.NeverRefuses) :
    (q.plan arguments).MustEnter c := by
  have hpicked : ∀ source : Source, ∀ r ∈ source.pick arguments,
      r.numbers.NeverRefuses ∧ r.texts.NeverRefuses := by
    intro source r hr
    obtain ⟨i, -, hi⟩ := Source.mem_pick.mp hr
    exact h r (List.mem_of_getElem? hi)
  induction q with
  | done a => exact hq.elim
  | refuse why => exact hq.elim
  | numbers source next ih =>
      have hsource : ∀ r ∈ source.pick arguments, r.numbers.NeverRefuses :=
        fun r hr => (hpicked source r hr).1
      rcases hq with ⟨rfl, hcovers⟩ | hq
      · exact (Plan.mustEnter_gather (Source.mem_pick.mpr ⟨index, hcovers, hget⟩) hr hsource).bind _
      · -- This question is about something else, and it does not keep the next from being asked.
        exact Plan.mustEnter_bind (Plan.EntersOnly.gather hsource) fun xs => ih xs (hq xs)
  | texts source next ih =>
      have hsource : ∀ r ∈ source.pick arguments, r.texts.NeverRefuses :=
        fun r hr => (hpicked source r hr).2
      rcases hq with ⟨rfl, hcovers⟩ | hq
      · exact (Plan.mustEnter_gather (Source.mem_pick.mpr ⟨index, hcovers, hget⟩) hr hsource).bind _
      · exact Plan.mustEnter_bind (Plan.EntersOnly.gather hsource) fun xs => ih xs (hq xs)

end Query

end FormulaTable
