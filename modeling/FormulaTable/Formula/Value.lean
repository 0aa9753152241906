import FormulaTable.Number.Decimal
import FormulaTable.Number.Display

/-!
# `FormulaTable.Formula.Value`: what a cell comes to

A formula comes to a number, a text, a truth value or a sentinel, the mark of something that went
wrong. `Value.display` is what the table shows and `Value.number?` what another formula can
calculate with.
-/

set_option autoImplicit false

namespace FormulaTable

/-- The marks shown in place of a value. -/
inductive Sentinel where
  | failed
  | unknownName
  /-- The cell depends on itself. -/
  | circular
  /-- The text has no form of a formula. -/
  | noValue
  | divisionByZero
  deriving DecidableEq, Repr

/-- How a sentinel is shown. -/
def Sentinel.display : Sentinel → String
  | .failed => "#ERROR!"
  | .unknownName => "#NAME?"
  | .circular => "#REF!"
  | .noValue => "#VALUE!"
  | .divisionByZero => "#DIV/0!"

/-- What a formula comes to. -/
inductive Value where
  | number (n : Float)
  | text (s : String)
  | boolean (b : Bool)
  | sentinel (s : Sentinel)
  deriving DecidableEq

/-- The number for a truth value. -/
def truthNumber (b : Bool) : Float :=
  if b then 1 else 0

/-- The number that a value stands for. A text stands for a number if it spells one; a sentinel
never does. -/
def Value.number? : Value → Option Float
  | .number n => some n
  | .text s => parseNumber s.toList
  | .boolean b => some (truthNumber b)
  | .sentinel _ => none

/-- How a value is shown. -/
def Value.display : Value → String
  | .number n => displayNumber n
  | .text s => s
  | .boolean true => "TRUE"
  | .boolean false => "FALSE"
  | .sentinel s => s.display

end FormulaTable
