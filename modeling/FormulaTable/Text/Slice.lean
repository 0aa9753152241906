/-!
# `FormulaTable.Text.Slice`: parts of a text, and texts made of parts

Positions and lengths count characters.
-/

set_option autoImplicit false

namespace FormulaTable.Text

/-- The first `count` characters, or all of them if there are fewer. -/
def left (count : Nat) (text : List Char) : List Char :=
  text.take count

/-- The last `count` characters, or all of them if there are fewer. -/
def right (count : Nat) (text : List Char) : List Char :=
  text.drop (text.length - count)

/-- At most `count` characters after the first `skipped`. -/
def middle (skipped count : Nat) (text : List Char) : List Char :=
  (text.drop skipped).take count

/-- The text that follows `front`, if `text` begins with it. -/
def dropFront? (front text : List Char) : Option (List Char) :=
  match front, text with
  | [], rest => some rest
  | _ :: _, [] => none
  | f :: front, c :: rest => if f = c then dropFront? front rest else none

/-- What is dropped and what is left make up the text. -/
theorem length_of_dropFront? {front text rest : List Char} (h : dropFront? front text = some rest) :
    text.length = front.length + rest.length := by
  fun_induction dropFront? front text with
  | case1 => simp_all
  | case2 => simp at h
  | case3 front c text ih => simp only [List.length_cons, ih h]; omega
  | case4 => simp at h

/-- Replaces every occurrence of `first :: old` by `new`, from left to right; what has been
replaced is not looked at again. -/
def replaceFrom (first : Char) (old new : List Char) (text : List Char) : List Char :=
  match text with
  | [] => []
  | c :: rest =>
    match _h : dropFront? (first :: old) (c :: rest) with
    | some after => new ++ replaceFrom first old new after
    | none => c :: replaceFrom first old new rest
termination_by text.length
decreasing_by
  · have := length_of_dropFront? _h
    simp only [List.length_cons] at this ⊢
    omega
  · simp

/-- Replaces every occurrence of `old` by `new`; an empty `old` occurs nowhere. -/
def replaceAll (old new text : List Char) : List Char :=
  match old with
  | [] => text
  | first :: old => replaceFrom first old new text

/-- The text `count` times over. -/
def repeated (count : Nat) (text : List Char) : List Char :=
  if text.isEmpty then [] else (List.replicate count text).flatten

end FormulaTable.Text
