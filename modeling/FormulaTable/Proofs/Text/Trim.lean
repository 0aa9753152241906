import FormulaTable.Text.Blank
import Mathlib.Data.List.Basic
import Mathlib.Data.List.DropRight

/-!
# `FormulaTable.Proofs.Text.Trim`: blanks around a text

Blanks may be put around a text without any effect on what is left of it when it is trimmed
(`Text.trim_padded`). A text that neither begins nor ends with a blank is trimmed already
(`Text.trim_eq_self`).

What is trimmed away are blanks at the two ends (`Text.exists_padding`), and what is left neither
begins nor ends with one (`Text.not_isBlank_of_head?_trim`, `Text.not_isBlank_of_getLast?_trim`).
-/

set_option autoImplicit false

namespace FormulaTable.Text

/-- There is nothing but blanks in the text. -/
def AllBlank (text : List Char) : Prop :=
  ∀ c ∈ text, isBlank c

instance (text : List Char) : Decidable (AllBlank text) :=
  decidable_of_iff (text.all isBlank = true) List.all_eq_true

variable {text before after : List Char}

/-- An empty text is blank. -/
theorem allBlank_nil : AllBlank [] := by
  simp [AllBlank]

/-- Blanks in front of a text are taken off. -/
theorem trimStart_append_of_allBlank (h : AllBlank before) (text : List Char) :
    trimStart (before ++ text) = trimStart text :=
  List.dropWhile_append_of_pos h

/-- Blanks behind a text are taken off. -/
theorem trimEnd_append_of_allBlank (h : AllBlank after) (text : List Char) :
    trimEnd (text ++ after) = trimEnd text := by
  have hreverse : ∀ c ∈ after.reverse, isBlank c := fun c hc => h c (List.mem_reverse.mp hc)
  rw [trimEnd, trimEnd, List.reverse_append, List.dropWhile_append_of_pos hreverse]

/-- Blanks around a text have no effect on what is left of it when it is trimmed. -/
theorem trim_padded (hbefore : AllBlank before) (hafter : AllBlank after) (text : List Char) :
    trim (before ++ text ++ after) = trim text := by
  rw [trim, List.append_assoc, trimStart_append_of_allBlank hbefore, trimStart,
    List.dropWhile_append]
  cases hstart : text.dropWhile isBlank with
  | nil =>
      -- The text is blank itself, so the blanks after it are dropped from the front.
      have hblank : trimStart (after ++ []) = [] := trimStart_append_of_allBlank hafter []
      rw [List.append_nil] at hblank
      simp only [List.isEmpty_nil, if_true]
      rw [trim, trimStart, hstart]
      exact congrArg trimEnd hblank
  | cons c rest =>
      simp only [List.isEmpty_cons, Bool.false_eq_true, if_false]
      rw [trimEnd_append_of_allBlank hafter, trim, trimStart, hstart]

/-- Of a blank text nothing is left. -/
theorem trim_of_allBlank (h : AllBlank text) : trim text = [] := by
  have hpadded := trim_padded h allBlank_nil []
  rw [List.append_nil, List.append_nil] at hpadded
  exact hpadded

/-- A text that neither begins nor ends with a blank is trimmed already. -/
theorem trim_eq_self (hfirst : ∀ c ∈ text.head?, isBlank c = false)
    (hlast : ∀ c ∈ text.getLast?, isBlank c = false) : trim text = text := by
  -- Dropping from the front of a list that begins with no blank drops nothing.
  have hdrop : ∀ cs : List Char, (∀ c ∈ cs.head?, isBlank c = false) →
      cs.dropWhile isBlank = cs := by
    intro cs hcs
    cases cs with
    | nil => rfl
    | cons c cs => exact List.dropWhile_cons_of_neg (by simp [hcs c rfl])
  rw [trim, trimStart, hdrop text hfirst, trimEnd, hdrop, List.reverse_reverse]
  rw [List.head?_reverse]
  exact hlast

/-- A text without blanks is trimmed already. -/
theorem trim_of_noBlanks (h : ∀ c ∈ text, isBlank c = false) : trim text = text :=
  trim_eq_self (fun c hc => h c (List.mem_of_head? hc)) fun c hc => h c (List.mem_of_getLast? hc)

/-- Nothing is trimmed between two ends that are not blank. -/
theorem trim_eq_self_of_ends {first last : List Char} (middle : List Char) (hfirst : first ≠ [])
    (hlast : last ≠ []) (hfirst_blank : ∀ c ∈ first, isBlank c = false)
    (hlast_blank : ∀ c ∈ last, isBlank c = false) :
    trim (first ++ middle ++ last) = first ++ middle ++ last := by
  apply trim_eq_self
  · intro c hc
    rw [List.append_assoc, List.head?_append_of_ne_nil _ hfirst] at hc
    exact hfirst_blank c (List.mem_of_head? hc)
  · intro c hc
    rw [List.getLast?_append_of_ne_nil _ hlast] at hc
    exact hlast_blank c (List.mem_of_getLast? hc)

/-! ## What is left of a text -/

/-- A text is what is left of it when it is trimmed, with blanks in front and behind. -/
theorem exists_padding (text : List Char) :
    ∃ before after, AllBlank before ∧ AllBlank after ∧ text = before ++ trim text ++ after := by
  refine ⟨text.takeWhile isBlank, (trimStart text).rtakeWhile isBlank,
    fun _ hc => List.mem_takeWhile_imp hc, fun _ hc => List.mem_rtakeWhile_imp hc, ?_⟩
  have hend : trim text ++ (trimStart text).rtakeWhile isBlank = trimStart text :=
    List.rdropWhile_append_rtakeWhile
  rw [List.append_assoc, hend, trimStart, List.takeWhile_append_dropWhile]

/-- What is left of a text does not begin with a blank. -/
theorem not_isBlank_of_head?_trim (text : List Char) :
    ∀ c ∈ (trim text).head?, isBlank c = false := by
  intro c hc
  -- Trimming the end takes nothing off the front of what is left.
  obtain ⟨behind, hbehind⟩ : trim text <+: trimStart text := List.rdropWhile_prefix isBlank _
  have hhead : (text.dropWhile isBlank).head? = some c := by
    rw [← trimStart, ← hbehind, List.head?_append, Option.mem_def.mp hc]
    rfl
  have hstop := List.head?_dropWhile_not isBlank text
  rw [hhead] at hstop
  exact hstop

/-- What is left of a text does not end with a blank. -/
theorem not_isBlank_of_getLast?_trim (text : List Char) :
    ∀ c ∈ (trim text).getLast?, isBlank c = false := by
  intro c hc
  rw [trim, trimEnd, List.getLast?_reverse, Option.mem_def] at hc
  have hstop := List.head?_dropWhile_not isBlank (trimStart text).reverse
  rw [hc] at hstop
  exact hstop

/-- Trimming once is enough. -/
theorem trim_trim (text : List Char) : trim (trim text) = trim text :=
  trim_eq_self (not_isBlank_of_head?_trim text) (not_isBlank_of_getLast?_trim text)

end FormulaTable.Text
