import FormulaTable.Text.Blank

/-!
# `FormulaTable.Formula.Call`: calls, arguments and quotes

A call is a name and, in parentheses, its arguments with commas between them. Parentheses and
commas inside a quoted stretch, and commas inside inner parentheses, belong to the argument they
stand in. All of this is decided by one scan from left to right: a `Nesting` says how deep in
parentheses and in which quotation marks the scan stands.

`splitCall?` takes a call apart, `arguments` cuts out its arguments, and `unquote?` takes the
quotation marks off an argument.
-/

set_option autoImplicit false

namespace FormulaTable

/-- The two characters that quote a stretch of text: the double and the single quotation mark. -/
def isQuote (c : Char) : Bool :=
  c == '\x22' || c == '\x27'

/-- Where a scan stands: inside the quotation mark `quote`, or outside of quotes, and inside
`depth` parentheses. -/
structure Nesting where
  quote : Option Char := none
  depth : Nat := 0
  deriving DecidableEq, Repr

namespace Nesting

/-- Goes past one character. A quoted stretch ends at the mark it began with. -/
def step (s : Nesting) (c : Char) : Nesting :=
  match s.quote with
  | some mark => if c = mark then { s with quote := none } else s
  | none =>
    if isQuote c then { s with quote := some c }
    else if c = '(' then { s with depth := s.depth + 1 }
    else if c = ')' then { s with depth := s.depth - 1 }
    else s

/-- Whether the character closes a parenthesis that was never opened. -/
def overcloses (s : Nesting) (c : Char) : Bool :=
  s.quote.isNone && c == ')' && s.depth == 0

/-- Whether the scan stands outside of all quotes and parentheses. -/
def isOutside (s : Nesting) : Bool :=
  s.quote.isNone && s.depth == 0

end Nesting

/-- Whether every parenthesis outside of quotes has its partner, when the scan begins at `s`. -/
def balancedFrom (s : Nesting) : List Char → Bool
  | [] => s.depth == 0
  | c :: rest => !s.overcloses c && balancedFrom (s.step c) rest

/-- Whether every parenthesis outside of quotes has its partner in the text. -/
def balanced (text : List Char) : Bool :=
  balancedFrom {} text

/-- Takes a call apart into its name and the text between its parentheses. The name is a letter
with letters and digits after it, the last character closes the parenthesis after the name. -/
def splitCall? (body : List Char) : Option (List Char × List Char) :=
  let name := body.takeWhile Char.isAlphanum
  match body.dropWhile Char.isAlphanum with
  | '(' :: rest =>
    if name.head?.any Char.isAlpha && rest.getLast? == some ')' && balanced rest.dropLast then
      some (name, rest.dropLast)
    else none
  | _ => none

/-- Cuts a text at every comma outside of quotes and parentheses, when the scan begins at `s`. -/
def cutAtCommas (s : Nesting) : List Char → List (List Char)
  | [] => [[]]
  | c :: rest =>
    if s.isOutside && c == ',' then [] :: cutAtCommas s rest
    else
      match cutAtCommas (s.step c) rest with
      | [] => [[c]]
      | piece :: pieces => (c :: piece) :: pieces

/-- The arguments in the text between the parentheses of a call, without the blanks around them;
what is blank altogether is no argument. -/
def arguments (text : List Char) : List (List Char) :=
  ((cutAtCommas {} text).map Text.trim).filter fun piece => !piece.isEmpty

/-- The text between quotation marks, if the argument begins and ends with the same mark. -/
def unquote? : List Char → Option (List Char)
  | [] => none
  | mark :: rest =>
    if isQuote mark && rest.getLast? == some mark then some rest.dropLast else none

/-! ### Arguments are shorter than the call -/

/-- Cutting only takes characters away. The scan may begin anywhere, since every step of it moves
on to another nesting. -/
theorem length_le_of_mem_cutAtCommas {s : Nesting} {text piece : List Char}
    (h : piece ∈ cutAtCommas s text) : piece.length ≤ text.length := by
  induction text generalizing s piece with
  | nil => simp_all [cutAtCommas]
  | cons c rest ih =>
    simp only [cutAtCommas] at h
    split at h
    · -- At a comma an empty piece ends and the others come from the rest.
      rcases List.mem_cons.mp h with rfl | h
      · exact Nat.zero_le _
      · exact Nat.le_succ_of_le (ih h)
    · split at h
      · -- A text is never cut into no pieces, but one of a single character bounds this case too.
        rw [List.mem_singleton.mp h]
        simp
      · -- The first piece of the rest grows by the character, the others stay.
        next first others heq =>
        rcases List.mem_cons.mp h with rfl | h
        · have hle : first.length ≤ rest.length := ih (heq ▸ List.mem_cons_self)
          exact Nat.succ_le_succ hle
        · have hle : piece.length ≤ rest.length := ih (heq ▸ List.mem_cons_of_mem first h)
          exact Nat.le_succ_of_le hle

/-- An argument is a piece without the blanks around it. -/
theorem length_le_of_mem_arguments {text argument : List Char} (h : argument ∈ arguments text) :
    argument.length ≤ text.length := by
  obtain ⟨piece, hpiece, rfl⟩ := List.mem_map.mp (List.mem_filter.mp h).1
  exact Nat.le_trans (Text.length_trim_le piece) (length_le_of_mem_cutAtCommas hpiece)

/-- The text between the parentheses of a call is shorter than the call. -/
theorem length_lt_of_splitCall? {body name inner : List Char}
    (h : splitCall? body = some (name, inner)) : inner.length < body.length := by
  -- What follows the name is no longer than the body, and the parentheses do not count.
  have hle := (List.dropWhile_suffix (l := body) Char.isAlphanum).length_le
  simp only [splitCall?] at h
  split at h
  · next rest heq =>
    split at h
    · simp only [Option.some.injEq, Prod.mk.injEq] at h
      rw [heq] at hle
      rw [← h.2]
      simp only [List.length_cons, List.length_dropLast] at hle ⊢
      omega
    · simp at h
  · simp at h

end FormulaTable
