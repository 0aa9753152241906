import FormulaTable.Builtin.Call
import Mathlib.Data.List.Forall2

/-!
# `FormulaTable.Proofs.Builtin.Alike`: arguments that are alike

Two outcomes are alike if they are the same fault or have related results (`SameOutcome`), and two
arguments are alike if they give the same numbers, and texts that are related (`Reading.Alike`). The
relation between lists of texts is left open. `gather_alike` and `gather_filter_alike` say when
lists that are put together from many outcomes are alike.

A function respects such a relation, and one between draws, if it makes the same of arguments that
are alike with draws that are related (`Builtin.Respects`). With equality for both relations every
function does (`Builtin.respects_eq`); for any other relations this says which differences a
function does not see. All functions but two see no draws at all (`Builtin.respects_of_not_draws`).
-/

set_option autoImplicit false

namespace FormulaTable

/-! ## Outcomes that are alike -/

/-- Two outcomes are alike: the same fault, or related results. -/
def SameOutcome {α : Type} (R : α → α → Prop) : Except Fault α → Except Fault α → Prop
  | .ok a, .ok b => R a b
  | .error why, .error why' => why = why'
  | _, _ => False

section
variable {α β : Type} {R : α → α → Prop} {S : β → β → Prop} {x y : Except Fault α}

/-- The same outcome is alike, if every result is related to itself. -/
theorem SameOutcome.of_eq (hR : ∀ a, R a a) (h : x = y) : SameOutcome R x y := by
  subst h
  cases x with
  | ok a => exact hR a
  | error why => rfl

/-- With equality between results, outcomes that are alike are the same. -/
theorem sameOutcome_eq : SameOutcome (· = ·) x y ↔ x = y := by
  cases x <;> cases y <;> simp [SameOutcome]

/-- Results of outcomes that are alike may turn out to be related more closely. -/
theorem SameOutcome.imp {R' : α → α → Prop} (h : SameOutcome R x y)
    (hR : ∀ a b, x = .ok a → y = .ok b → R a b → R' a b) : SameOutcome R' x y := by
  cases x with
  | ok a =>
      cases y with
      | ok b => exact hR a b rfl rfl h
      | error why => exact h
  | error why => cases y <;> exact h

/-- Outcomes stay alike when related results are gone on with alike. -/
theorem SameOutcome.bind {next next' : α → Except Fault β} (h : SameOutcome R x y)
    (hnext : ∀ a b, R a b → SameOutcome S (next a) (next' b)) :
    SameOutcome S (x >>= next) (y >>= next') := by
  cases x with
  | ok a =>
      cases y with
      | ok b => exact hnext a b h
      | error why => exact h.elim
  | error why =>
      cases y with
      | ok b => exact h.elim
      | error why' => exact h

/-- What goes on with a result has had one. -/
theorem exists_of_bind_ok {next : α → Except Fault β} {b : β} (h : x >>= next = .ok b) :
    ∃ a, x = .ok a ∧ next a = .ok b := by
  cases x with
  | ok a => exact ⟨a, rfl, h⟩
  | error why => cases h

end

/-! ## Lists gathered from many outcomes -/

section
variable {α β : Type} {S : List β → List β → Prop} {read read' : α → Except Fault (List β)}

/-- Lists gathered from outcomes that are alike are alike, if appending keeps the relation. -/
theorem gather_alike (hnil : S [] [])
    (happend : ∀ {xs ys xs' ys'}, S xs ys → S xs' ys' → S (xs ++ xs') (ys ++ ys'))
    {items items' : List α}
    (h : List.Forall₂ (fun item item' => SameOutcome S (read item) (read' item')) items items') :
    SameOutcome S (gather read items) (gather read' items') := by
  -- Along the items: the first one that fails is the same on both sides.
  induction h with
  | nil => exact hnil
  | cons hread _ ih =>
      rw [gather, gather]
      exact hread.bind fun here here' hhere => ih.bind fun rest rest' hrest => happend hhere hrest

/-- Items may be left out on one side if what they give is related to nothing. -/
theorem gather_filter_alike (hnil : S [] [])
    (happend : ∀ {xs ys xs' ys'}, S xs ys → S xs' ys' → S (xs ++ xs') (ys ++ ys'))
    {keep : α → Bool} {items : List α}
    (hkept : ∀ item ∈ items, keep item → SameOutcome S (read item) (read' item))
    (hleft : ∀ item ∈ items, ¬ keep item → ∃ xs, read item = .ok xs ∧ S xs []) :
    SameOutcome S (gather read items) (gather read' (items.filter keep)) := by
  induction items with
  | nil => exact hnil
  | cons item rest ih =>
      have hrest : SameOutcome S (gather read rest) (gather read' (rest.filter keep)) :=
        ih (fun other hother => hkept other (List.mem_cons_of_mem item hother))
          fun other hother => hleft other (List.mem_cons_of_mem item hother)
      by_cases hkeep : keep item
      · rw [List.filter_cons_of_pos hkeep, gather, gather]
        have hread := hkept item List.mem_cons_self hkeep
        exact hread.bind fun here here' hhere => hrest.bind fun xs ys hxs => happend hhere hxs
      · obtain ⟨here, hhere, hnothing⟩ := hleft item List.mem_cons_self hkeep
        rw [List.filter_cons_of_neg hkeep, gather, hhere]
        -- On the other side, there is nothing in front of the rest.
        have hself : gather read' (rest.filter keep)
            = gather read' (rest.filter keep) >>= fun ys => .ok ([] ++ ys) := by
          cases gather read' (rest.filter keep) <;> rfl
        rw [hself]
        exact hrest.bind fun xs ys hxs => happend hnothing hxs

/-- The same is gathered where every item gives the same. -/
theorem gather_congr {items : List α} (h : ∀ item ∈ items, read item = read' item) :
    gather read items = gather read' items := by
  rw [← sameOutcome_eq]
  refine gather_alike rfl (fun hxs hys => by rw [hxs, hys]) ?_
  exact List.forall₂_same.mpr fun item hitem => sameOutcome_eq.mpr (h item hitem)

end

/-- The arguments that a question is about are related if all arguments are. -/
theorem Source.pick_forall₂ {α : Type} {P : α → α → Prop} (source : Source) {items items' : List α}
    (h : List.Forall₂ P items items') :
    List.Forall₂ P (source.pick items) (source.pick items') := by
  cases source with
  | all => exact h
  -- One argument is picked by its index, and lists that are related have one there or both none.
  | only index =>
      show List.Forall₂ P items[index]?.toList items'[index]?.toList
      induction h generalizing index with
      | nil => simp
      | cons hfirst _ ih =>
          cases index with
          | zero => exact .cons hfirst .nil
          | succ index => exact ih index

/-- One argument is there on both sides, or on none. -/
theorem forall₂_toList {α : Type} {P : α → α → Prop} {x y : Option α}
    (h : List.Forall₂ P x.toList y.toList) :
    (x = none ∧ y = none) ∨ ∃ a b, x = some a ∧ y = some b ∧ P a b := by
  cases x with
  | none =>
      cases y with
      | none => exact Or.inl ⟨rfl, rfl⟩
      | some b => cases h
  | some a =>
      cases y with
      | none => cases h
      | some b =>
          cases h with
          | cons hab _ => exact Or.inr ⟨a, b, rfl, rfl, hab⟩

/-! ## Arguments that are alike -/

/-- An argument gives the same numbers on two sides, and texts that are related. -/
structure Reading.Alike (R : List String → List String → Prop) (r r' : Reading) : Prop where
  numbers : r.numbers () = r'.numbers ()
  texts : SameOutcome R (r.texts ()) (r'.texts ())

/-- Arguments that are alike give the same numbers in answer to a question. -/
theorem Source.gather_numbers_eq {R : List String → List String → Prop} (source : Source)
    {arguments arguments' : List Reading}
    (h : List.Forall₂ (Reading.Alike R) arguments arguments') :
    gather (fun r => r.numbers ()) (source.pick arguments)
      = gather (fun r => r.numbers ()) (source.pick arguments') := by
  rw [← sameOutcome_eq]
  refine gather_alike rfl (fun hxs hys => by rw [hxs, hys]) ?_
  exact (source.pick_forall₂ h).imp fun r r' hr => sameOutcome_eq.mpr hr.numbers

/-- Two worlds outside have the same clock, and draws that are related. -/
structure Ambient.Related (W : Draws → Draws → Prop) (ambient ambient' : Ambient) : Prop where
  now : ambient.now = ambient'.now
  draw : W ambient.draw ambient'.draw

/-- With the same draws, it is the same world outside. -/
theorem Ambient.eq_of_related {ambient ambient' : Ambient} (h : ambient.Related (· = ·) ambient') :
    ambient = ambient' := by
  obtain ⟨hnow, hdraw⟩ := h
  cases ambient
  cases ambient'
  simp_all

/-- A function makes the same of arguments that are alike, with draws that are related. -/
def Builtin.Respects (W : Draws → Draws → Prop) (R : List String → List String → Prop)
    (f : Builtin) : Prop :=
  ∀ ambient ambient' arguments arguments', ambient.Related W ambient' →
    List.Forall₂ (Reading.Alike R) arguments arguments' →
    f.call ambient arguments = f.call ambient' arguments'

/-- Arguments with the same texts are the same arguments. -/
theorem Reading.eq_of_alike {arguments arguments' : List Reading}
    (h : List.Forall₂ (Reading.Alike (· = ·)) arguments arguments') : arguments = arguments' := by
  induction h with
  | nil => rfl
  | @cons r r' _ _ hr _ ih =>
      have hnumbers : r.numbers = r'.numbers := funext fun _ => hr.numbers
      have htexts : r.texts = r'.texts := funext fun _ => sameOutcome_eq.mp hr.texts
      -- The outcomes are equal, and a reading is nothing but its two outcomes.
      have hread : r = r' := by
        cases r
        cases r'
        simp_all
      rw [hread, ih]

/-- Every function makes the same of the same arguments, if draws that are related are the same. -/
theorem Builtin.respects_of_eq (f : Builtin) {W : Draws → Draws → Prop}
    (hW : ∀ draws draws', W draws draws' → draws = draws') : f.Respects W (· = ·) := by
  intro ambient ambient' arguments arguments' hambient h
  have hsame : ambient.Related (· = ·) ambient' := ⟨hambient.now, hW _ _ hambient.draw⟩
  rw [Ambient.eq_of_related hsame, Reading.eq_of_alike h]

/-- Every function makes the same of the same arguments with the same draws. -/
theorem Builtin.respects_eq (f : Builtin) : f.Respects (· = ·) (· = ·) :=
  f.respects_of_eq fun _ _ => id

/-- The functions that draw a number. -/
def Builtin.draws : Builtin → Bool
  | .rand => true
  | .randBetween => true
  | _ => false

/-- A function that draws no number sees no more of the world outside than the clock. -/
theorem Builtin.query_congr {f : Builtin} (hf : f.draws = false) {ambient ambient' : Ambient}
    (hnow : ambient.now = ambient'.now) (count : Nat) :
    f.query ambient count = f.query ambient' count := by
  cases f with
  | rand => cases hf
  | randBetween => cases hf
  -- The functions of the calendar look at the clock, and no other function at anything outside.
  | day => simp only [query, hnow]
  | month => simp only [query, hnow]
  | year => simp only [query, hnow]
  | now => simp only [query, hnow]
  | today => simp only [query, hnow]
  | _ => rfl

/-- A function that draws no number makes the same of the same arguments, whatever the draws. -/
theorem Builtin.respects_of_not_draws {f : Builtin} (hf : f.draws = false)
    (W : Draws → Draws → Prop) : f.Respects W (· = ·) := by
  intro ambient ambient' arguments arguments' hambient h
  rw [Reading.eq_of_alike h, call, call, query_congr hf hambient.now]

/-- A call inside a formula makes the same of arguments that are alike, if the function does. -/
theorem Builtin.callNamed_congr {W : Draws → Draws → Prop}
    {R : List String → List String → Prop} {ambient ambient' : Ambient}
    {f : Option Builtin} {arguments arguments' : List Reading}
    (hf : ∀ h, f = some h → h.Respects W R) (hambient : ambient.Related W ambient')
    (h : List.Forall₂ (Reading.Alike R) arguments arguments') :
    callNamed ambient f arguments = callNamed ambient' f arguments' := by
  cases f with
  | none => rfl
  | some f => rw [callNamed, callNamed, hf f rfl ambient ambient' arguments arguments' hambient h]

end FormulaTable
