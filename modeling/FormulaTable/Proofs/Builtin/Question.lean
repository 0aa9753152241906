import FormulaTable.Builtin.Call

/-!
# `FormulaTable.Proofs.Builtin.Question`: which readings of its arguments a function asks for

`Builtin.readings` is a table: for every function and every place of an argument, whether the
function reads the argument there as numbers, as texts, as both or not at all. The theorems compare
the table with the dialogues:

* `Builtin.query_asksOnly`: no function asks for a reading that is not in the table, whatever the
  answers are, and no function has a sentinel as its result.
* `Builtin.query_mustAsk`: with an admissible number of arguments every function but `IF` asks for
  all readings in the table before it ends, also when it then refuses its arguments.

`IF` reads the branch that its condition chooses, and reads it as a text only if it gives no number.
-/

set_option autoImplicit false

namespace FormulaTable

/-- The two ways to read an argument. -/
inductive ReadingKind where
  | numbers
  | texts
  deriving DecidableEq, Repr

/-- The readings that a function gives its argument at a place. -/
def Builtin.readings (f : Builtin) (index : Nat) : List ReadingKind :=
  match f with
  | .concat | .concatenate | .countFilled | .countIf | .day | .isBlank | .isNumber | .isText | .len
  | .lower | .month | .proper | .substitute | .sumIf | .trim | .unique | .upper | .year => [.texts]
  | .left | .mid | .rept | .right => if index = 0 then [.texts] else [.numbers]
  | .ifElse => [.numbers, .texts]
  | .now | .pi | .rand | .today => []
  | .abs | .and | .average | .ceiling | .count | .floor | .int | .max | .median | .min | .mod | .not
  | .or | .power | .product | .randBetween | .round | .sqrt | .stdev | .sum | .variance =>
      [.numbers]

/-- Whether a question is about the argument at a place. -/
def Source.Covers (source : Source) (index : Nat) : Prop :=
  match source with
  | .all => True
  | .only i => i = index

namespace Query

variable {α β : Type}

/-- Every reading that a dialogue asks for is one of `asked`, and every result satisfies `result`,
whatever the answers are. -/
def AsksOnly (asked : ReadingKind → Nat → Prop) (result : α → Prop) : Query α → Prop
  | .done a => result a
  | .refuse _ => True
  | .numbers source next =>
    (∀ i, source.Covers i → asked .numbers i) ∧ ∀ xs, (next xs).AsksOnly asked result
  | .texts source next =>
    (∀ i, source.Covers i → asked .texts i) ∧ ∀ xs, (next xs).AsksOnly asked result

/-- A dialogue does not end before it has asked for a reading of the argument at `index`, whatever
the answers are. -/
def MustAsk (kind : ReadingKind) (index : Nat) : Query α → Prop
  | .done _ => False
  | .refuse _ => False
  | .numbers source next =>
    (kind = .numbers ∧ source.Covers index) ∨ ∀ xs, (next xs).MustAsk kind index
  | .texts source next =>
    (kind = .texts ∧ source.Covers index) ∨ ∀ xs, (next xs).MustAsk kind index

/-- A dialogue that goes one way or the other asks only what the way it goes asks. -/
theorem asksOnly_ite (asked : ReadingKind → Nat → Prop) (result : α → Prop) (c : Prop)
    [Decidable c] (p q : Query α) :
    (if c then p else q).AsksOnly asked result
      ↔ if c then p.AsksOnly asked result else q.AsksOnly asked result := by
  split <;> rfl

end Query

namespace Builtin

open Meaning Query

/-- The branch of `IF` reads one argument, first as numbers and then perhaps as texts. -/
theorem branch_asksOnly (asked : ReadingKind → Nat → Prop) (index : Nat)
    (h : ∀ kind, asked kind index) :
    (branch index).AsksOnly asked fun value => ∀ s, value ≠ .sentinel s := by
  refine ⟨fun i hi => hi ▸ h .numbers, fun xs => ?_⟩
  cases hx : xs.head? with
  | none =>
      simp only [Query.andThen, hx]
      exact ⟨fun i hi => hi ▸ h .texts, fun texts s => by simp⟩
  | some n =>
      simp only [Query.andThen, hx]
      show ∀ s, Value.number n ≠ .sentinel s
      simp

/-- Functions ask only for the readings in the table, and never result in a sentinel. -/
theorem query_asksOnly (ambient : Ambient) (count : Nat) (f : Builtin) :
    (f.query ambient count).AsksOnly (fun kind i => kind ∈ f.readings i)
      (fun value => ∀ s, value ≠ .sentinel s) := by
  cases f
  case ifElse =>
    have hbranch : ∀ index, (branch index).AsksOnly (fun kind i => kind ∈ readings .ifElse i)
        (fun value => ∀ s, value ≠ .sentinel s) :=
      fun index => branch_asksOnly _ index fun kind => by cases kind <;> simp [readings]
    refine ⟨fun i _ => by simp [readings], fun xs => ?_⟩
    -- Whichever branch the condition chooses, the number of arguments decides if it is there.
    simp only [Query.andThen]
    generalize (if xs.head?.getD 0 != 0 then 1 else 2) = chosen
    rw [asksOnly_ite]
    split
    · exact hbranch _
    · intro s
      simp
  -- The other dialogues are put together from the questions of `Query`. Unfolded, every question
  -- in them is one for the table.
  all_goals
    simp [query, overNumber, overNumbers, overText, overDate, decideNumbers, decideText, negation,
      roundToMultiple, joined, countMatches, sumMatches, distinctTexts, endOf, partOf, lengthOf,
      repetition, replaced, rounded, remainder, squareRoot, toPower, drawBetween,
      Query.number, Query.number?, Query.text, Query.textsAt, allNumbers, allTexts,
      bind, pure, Query.andThen, AsksOnly, asksOnly_ite, readings, Source.Covers]

/-- An admissible number of arguments is not above the greatest one. -/
theorem count_le_of_brokenBound? {f : Builtin} {count most : Nat}
    (h : f.brokenBound? count = none) (hmost : f.signature.most = some most) : count ≤ most := by
  rw [brokenBound?, hmost] at h
  by_cases hlt : most < count
  · simp only [if_pos hlt] at h
    split at h <;> simp at h
  · exact Nat.le_of_not_lt hlt

/-- With an admissible number of arguments, every function but `IF` asks for all readings in the
table before it ends. A function that refuses its arguments has read them all before. -/
theorem query_mustAsk (ambient : Ambient) {count : Nat} {f : Builtin} (hf : f ≠ .ifElse)
    (hcount : f.brokenBound? count = none) {index : Nat} (hindex : index < count)
    {kind : ReadingKind} (hkind : kind ∈ f.readings index) :
    (f.query ambient count).MustAsk kind index := by
  cases hmost : f.signature.most with
  | none =>
      -- A function that takes any number of arguments asks about all of them at once.
      cases f <;> simp [signature] at hmost <;> simp [readings] at hkind <;>
        simp [query, overNumbers, decideNumbers, joined, distinctTexts, allNumbers, allTexts,
          bind, pure, Query.andThen, MustAsk, Source.Covers, hkind]
  | some most =>
      -- Any other function asks about its arguments one by one, and there are at most three.
      have hle := count_le_of_brokenBound? hcount hmost
      cases f <;> simp [signature] at hmost <;> subst hmost
      case ifElse => exact absurd rfl hf
      -- A place that the function does not have, or that the table leaves out, is no case at all.
      all_goals obtain rfl | rfl | rfl : index = 0 ∨ index = 1 ∨ index = 2 := by omega
      all_goals first | (exfalso; omega) | (simp [readings] at hkind)
      all_goals
        simp [query, overNumber, overText, overDate, decideText, negation, roundToMultiple,
          countMatches, sumMatches, endOf, partOf, lengthOf, repetition, replaced, rounded,
          remainder, squareRoot, toPower, drawBetween, Query.number, Query.number?, Query.text,
          Query.textsAt, bind, pure, Query.andThen, MustAsk, Source.Covers, hkind, hindex]

end Builtin
end FormulaTable
