import FormulaTable.Proofs.Formula.Calls

/-!
# `FormulaTable.Proofs.Formula.Partner`: the parenthesis that ends a call

A call ends where the parenthesis behind its name is closed. `partner?` finds this place without
knowing what a call is: it scans from left to right, passes over what stands in quotes, and stops at
the first parenthesis that closes more than has been opened on the way.

`splitCall?` goes about it the other way. It takes the last character of the text for the end, and
checks that what stands in front of it is balanced.

* `partner?_callText_eq_last`: the last character is the partner if and only if the text between the
  parentheses is closed.
* `balanced_iff`: a balanced text is closed, or it leaves a quotation open. In the second case
  nothing behind the quotation mark counts, neither parentheses nor the end of the text.

So `splitCall?` finds every call that ends with the partner of its parenthesis, and takes some other
texts for calls as well, whose last character belongs to a quotation. `splitCall?_eq_some_iff` says
exactly which.
-/

set_option autoImplicit false

namespace FormulaTable

/-! ## The partner of a parenthesis -/

/-- The number of characters in front of the first one that closes more than has been opened, when
the scan begins at `s`. -/
def overclosing? (s : Nesting) : List Char → Option Nat
  | [] => none
  | c :: rest => if s.overcloses c then some 0 else (overclosing? (s.step c) rest).map (· + 1)

/-- The place of the parenthesis that closes the one at `place`: behind it, the first outside of
quotes that closes more than has been opened since. -/
def partner? (text : List Char) (place : Nat) : Option Nat :=
  (overclosing? {} (text.drop (place + 1))).map (place + 1 + ·)

/-- A parenthesis at the end is the first to close too much if everything in front of it is closed,
and only then. -/
theorem overclosing?_concat (s : Nesting) (inner : List Char) :
    overclosing? s (inner ++ [')']) = some inner.length ↔ closedFrom true s inner := by
  induction inner generalizing s with
  | nil =>
      -- At the end of what is inside, the scan has to be where it began.
      have hend : s.overcloses ')' = s.isOutside := by
        simp [Nesting.overcloses, Nesting.isOutside]
      cases hout : s.isOutside <;> simp [overclosing?, closedFrom, hend, hout]
  | cons c inner ih =>
      rw [List.cons_append, overclosing?, List.length_cons]
      by_cases hover : s.overcloses c = true
      · simp [closedFrom, hover]
      · rw [if_neg hover]
        rw [Bool.not_eq_true] at hover
        simp [closedFrom, hover, ← ih (s.step c)]

/-- The last character of a call is the partner of the parenthesis behind the name if and only if
the text between them is closed. -/
theorem partner?_callText_eq_last (name inner : List Char) :
    partner? (callText name inner) name.length = some ((callText name inner).length - 1) ↔
      Closed true inner := by
  have hbehind : (callText name inner).drop (name.length + 1) = inner ++ [')'] := by
    rw [callText, List.drop_append]
    simp
  have hlast : (callText name inner).length - 1 = name.length + 1 + inner.length := by
    simp only [callText, List.length_append, List.length_cons, List.length_nil]
    omega
  -- Searching behind the opening parenthesis, the partner is the first place that closes more than
  -- was opened; it is the last one exactly if nothing inside does.
  rw [partner?, hbehind, hlast, closed_iff, ← overclosing?_concat]
  constructor
  · intro h
    obtain ⟨place, hplace, heq⟩ := Option.map_eq_some_iff.mp h
    obtain rfl : place = inner.length := by omega
    exact hplace
  · intro h
    rw [h]
    rfl

/-! ## What is balanced without being closed -/

/-- The text leaves a quotation open: in front of its mark everything is closed, and behind it the
mark does not come again. -/
def LeavesQuotationOpen (text : List Char) : Prop :=
  ∃ before mark after,
    text = before ++ mark :: after ∧ Closed true before ∧ isQuote mark ∧ mark ∉ after

/-- Behind a quotation mark that does not come again, a scan stays inside the quotation. -/
theorem step_of_not_mem {mark c : Char} {rest : List Char} (h : mark ∉ c :: rest) (depth : Nat) :
    Nesting.step { quote := some mark, depth } c = { quote := some mark, depth } := by
  refine Nesting.step_of_ne_mark ?_ depth
  rintro rfl
  exact h List.mem_cons_self

/-- To the check for balance nothing counts inside a quotation that is left open. -/
theorem balancedFrom_of_not_mem {mark : Char} {text : List Char} (h : mark ∉ text) (depth : Nat) :
    balancedFrom { quote := some mark, depth } text = (depth == 0) := by
  induction text with
  | nil => rfl
  | cons c rest ih =>
      rw [balancedFrom, step_of_not_mem h depth, ih fun hrest => h (List.mem_cons_of_mem c hrest)]
      rfl

/-- A scan that ends inside a quotation has not closed everything. -/
theorem closedFrom_of_not_mem {commas : Bool} {mark : Char} {text : List Char} (h : mark ∉ text)
    (depth : Nat) : closedFrom commas { quote := some mark, depth } text = false := by
  induction text with
  | nil => rfl
  | cons c rest ih =>
      rw [closedFrom, step_of_not_mem h depth, ih fun hrest => h (List.mem_cons_of_mem c hrest),
        Bool.and_false]

/-- Where a step leads into a quotation, the scan has been in it before, or it begins here. -/
theorem eq_or_isQuote_of_step {s : Nesting} {c mark : Char} {depth : Nat}
    (h : s.step c = { quote := some mark, depth }) :
    (s = { quote := some mark, depth } ∧ c ≠ mark) ∨
    (s = .atDepth depth ∧ c = mark ∧ isQuote mark) := by
  obtain ⟨quote, depth'⟩ := s
  cases quote with
  | some mark' =>
      by_cases hend : c = mark'
      · simp [Nesting.step, hend] at h
      · obtain ⟨rfl, rfl⟩ : mark' = mark ∧ depth' = depth := by simpa [Nesting.step, hend] using h
        exact Or.inl ⟨rfl, hend⟩
  | none =>
      by_cases hquote : isQuote c
      · obtain ⟨rfl, rfl⟩ : c = mark ∧ depth' = depth := by simpa [Nesting.step, hquote] using h
        exact Or.inr ⟨rfl, rfl, hquote⟩
      · -- Without a quotation mark, the scan stays outside of quotes.
        have hnone : (Nesting.step { quote := none, depth := depth' } c).quote = none := by
          simp only [Nesting.step, if_neg hquote]
          split
          · rfl
          · split <;> rfl
        rw [h] at hnone
        cases hnone

/-- A scan that finds a text balanced has closed everything at its end, or it is still inside a
quotation there: one that it began in, or one that begins in the text. -/
theorem closed_or_open_of_balancedFrom {s : Nesting} {text : List Char} (h : balancedFrom s text) :
    closedFrom true s text ∨ (∃ mark, s = { quote := some mark, depth := 0 } ∧ mark ∉ text) ∨
      ∃ before mark after,
        text = before ++ mark :: after ∧ closedFrom true s before ∧ isQuote mark ∧
        mark ∉ after := by
  induction text generalizing s with
  | nil =>
      obtain ⟨quote, depth⟩ := s
      obtain rfl : depth = 0 := by simpa [balancedFrom] using h
      cases quote with
      | none => exact Or.inl rfl
      | some mark => exact Or.inr (Or.inl ⟨mark, rfl, List.not_mem_nil⟩)
  | cons c rest ih =>
      simp only [balancedFrom, Bool.and_eq_true, Bool.not_eq_true'] at h
      obtain ⟨hover, hrest⟩ := h
      rcases ih hrest with
        hclosed | ⟨mark, hstep, hmark⟩ | ⟨before, mark, after, rfl, hbefore, hafter⟩
      · exact Or.inl (by simp [closedFrom, hover, hclosed])
      · rcases eq_or_isQuote_of_step hstep with ⟨rfl, hne⟩ | ⟨rfl, rfl, hquote⟩
        · exact Or.inr (Or.inl ⟨mark, rfl, by simp [hmark, Ne.symm hne]⟩)
        · -- The quotation that stays open begins with this character.
          exact Or.inr (Or.inr ⟨[], c, rest, rfl, rfl, hquote, hmark⟩)
      · refine Or.inr (Or.inr ⟨c :: before, mark, after, rfl, ?_, hafter⟩)
        simp [closedFrom, hover, hbefore]

/-- A balanced text is closed, or it leaves a quotation open. -/
theorem balanced_iff (text : List Char) :
    balanced text ↔ Closed true text ∨ LeavesQuotationOpen text := by
  constructor
  · intro h
    rcases closed_or_open_of_balancedFrom h with hclosed | ⟨mark, hstart, -⟩ |
      ⟨before, mark, after, htext, hbefore, hopen⟩
    · exact Or.inl (closed_iff.mpr hclosed)
    · -- The scan begins outside of quotes.
      cases hstart
    · exact Or.inr ⟨before, mark, after, htext, closed_iff.mpr hbefore, hopen⟩
  · rintro (hclosed | ⟨before, mark, after, rfl, hbefore, hmark, hafter⟩)
    · exact hclosed.balanced
    · show balancedFrom (.atDepth 0) (before ++ mark :: after)
      rw [hbefore.balancedFrom_append, balancedFrom, Nesting.overcloses_of_isQuote hmark,
        Nesting.step_of_isQuote hmark, balancedFrom_of_not_mem hafter]
      rfl

/-- A text that leaves a quotation open is not closed. -/
theorem LeavesQuotationOpen.not_closed {text : List Char} (h : LeavesQuotationOpen text) :
    ¬ Closed true text := by
  obtain ⟨before, mark, after, rfl, hbefore, hmark, hafter⟩ := h
  rw [closed_iff]
  show ¬ closedFrom true (.atDepth 0) (before ++ mark :: after)
  rw [hbefore.closedFrom_append, closedFrom, Nesting.step_of_isQuote hmark,
    closedFrom_of_not_mem hafter, Bool.and_false]
  exact Bool.false_ne_true

/-! ## Calls -/

/-- A text is split into a name and what is inside if it is a name that a call may have, with
parentheses behind it around what is inside, and if one of two things holds. Either the last
character is the partner of the parenthesis behind the name. Or what is inside leaves a quotation
open; then that character belongs to the quotation, and is the partner of nothing. -/
theorem splitCall?_eq_some_iff (body name inner : List Char) :
    (splitCall? body = some (name, inner) ↔
      (IsCallName name ∧ body = callText name inner) ∧
        (partner? body name.length = some (body.length - 1) ∨ LeavesQuotationOpen inner)) ∧
    (body = callText name inner → LeavesQuotationOpen inner →
      partner? body name.length ≠ some (body.length - 1)) := by
  constructor
  · rw [splitCall?_eq_some_iff_balanced, balanced_iff, and_assoc]
    refine and_congr_right fun _ => and_congr_right ?_
    rintro rfl
    rw [partner?_callText_eq_last]
  · rintro rfl hopen
    rw [ne_eq, partner?_callText_eq_last]
    exact hopen.not_closed

/-- The parenthesis behind the name is never closed here: both parentheses at the end belong to the
quotation that is left open. The text goes for a call all the same. -/
theorem splitCall?_of_open_quotation :
    let body := "LEN(\"))".toList
    splitCall? body = some ("LEN".toList, "\")".toList) ∧
      partner? body "LEN".toList.length = none := by
  decide

end FormulaTable
