import FormulaTable.Builtin.Query
import FormulaTable.Calendar.Format

/-!
# `FormulaTable.Meaning.Dates`: functions of dates

A date is a text. A text that spells no date stands for the present day.
-/

set_option autoImplicit false

namespace FormulaTable.Meaning

/-- The date that a text spells, or else the given day. -/
def dateOf (today : Date) (s : String) : Date :=
  (Date.ofChars? s.toList).getD today

/-- A number that depends on the date of the first argument. -/
def overDate (today : Date) (f : Date → Float) : Query Value := do
  return .number (f (dateOf today (← Query.text 0)))

end FormulaTable.Meaning
