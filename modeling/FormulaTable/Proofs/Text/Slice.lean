import FormulaTable.Text.Slice
import Mathlib.Data.List.Basic

/-!
# `FormulaTable.Proofs.Text.Slice`: the parts of a text

`Text.left`, `Text.middle` and `Text.right` take what there is of the characters that are asked for.
Where they are all there, the three parts make up the text (`Text.left_append_middle_append_right`).
In general `left` begins the text and `right` ends it, each as long as is asked for or as long as
the text, and `middle` has its characters at their places (`Text.getElem?_middle`).
-/

set_option autoImplicit false

namespace FormulaTable.Text

variable (text : List Char)

/-- The left part has the length asked for, or that of the text. -/
theorem length_left (count : Nat) : (left count text).length = min count text.length :=
  List.length_take

/-- The middle part has the length asked for, or that of what is not skipped. -/
theorem length_middle (skipped count : Nat) :
    (middle skipped count text).length = min count (text.length - skipped) := by
  rw [middle, List.length_take, List.length_drop]

/-- The right part has the length asked for, or that of the text. -/
theorem length_right (count : Nat) : (right count text).length = min count text.length := by
  rw [right, List.length_drop]
  omega

/-- The characters of a part are those of the text from the first one that is not skipped. -/
theorem getElem?_middle (skipped count k : Nat) :
    (middle skipped count text)[k]? = if k < count then text[skipped + k]? else none := by
  rw [middle, List.getElem?_take, List.getElem?_drop]

/-- What is left of the first and the middle part of a text is its last part. -/
theorem left_append_middle_append_right {i n : Nat} (h : i + n ≤ text.length) :
    left i text ++ middle i n text ++ right (text.length - i - n) text = text := by
  have hlast : text.length - (text.length - i - n) = i + n := by omega
  rw [left, middle, right, hlast, ← List.drop_drop, List.append_assoc, List.take_append_drop,
    List.take_append_drop]

end FormulaTable.Text
