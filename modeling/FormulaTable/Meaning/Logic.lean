import FormulaTable.Builtin.Query

/-!
# `FormulaTable.Meaning.Logic`: conditions, and questions about a text

A number is true when it is not zero.
-/

set_option autoImplicit false

namespace FormulaTable.Meaning

/-- Whether no number is zero. -/
def allTrue (xs : List Float) : Bool :=
  xs.all (· != 0)

/-- Whether some number is not zero. -/
def someTrue (xs : List Float) : Bool :=
  xs.any (· != 0)

/-- A truth value that depends on all numbers. -/
def decideNumbers (f : List Float → Bool) : Query Value := do
  return .boolean (f (← Query.allNumbers))

/-- Whether the number is zero. -/
def negation : Query Value := do
  return .boolean ((← Query.number 0) == 0)

/-- The value of one argument: its number, if it gives one, or else its text. -/
def branch (index : Nat) : Query Value := do
  match ← Query.number? index with
  | some n => return .number n
  | none => return .text (← Query.text index)

/-- The second argument if the first is true, else the third, and the truth value false if that is
left out. The branch that is not taken is not read. -/
def conditional (count : Nat) : Query Value := do
  let condition ← Query.number 0
  let chosen := if condition != 0 then 1 else 2
  if chosen < count then branch chosen else return .boolean false

/-- A truth value that depends on one text. -/
def decideText (f : String → Bool) : Query Value := do
  return .boolean (f (← Query.text 0))

/-- Whether a text spells a number. -/
def spellsNumber (s : String) : Bool :=
  (parseNumber s.toList).isSome

/-- Whether a text is neither empty nor a number. -/
def isOtherText (s : String) : Bool :=
  !s.isEmpty && !spellsNumber s

end FormulaTable.Meaning
