import FormulaTable.Address.Cell
import FormulaTable.Builtin.Catalogue
import FormulaTable.Number.Whole

/-!
# `FormulaTable.Formula.Fault`: why an evaluation fails

A function can refuse its arguments, a call can have the wrong number of them, and a cell can
depend on itself. The first two never leave the call they arise in; only a circular reference is
passed on to whatever asked for the value.
-/

set_option autoImplicit false

namespace FormulaTable

/-- Why a function refuses its arguments. -/
inductive ArgumentFault where
  | zeroSignificance (function : Builtin)
  | negativeRoot
  | zeroModulus
  /-- There is no whole number between the bounds. -/
  | emptyInterval (bottom top : Int)
  /-- A part was to begin before the first character; `start` is a whole number. -/
  | startBeforeText (start : Float)
  | textTooLong
  deriving DecidableEq

/-- The greatest number of characters of a repeated text. -/
def repeatLimit : Nat := 32767

/-- The wording of a refusal. -/
def ArgumentFault.message : ArgumentFault → String
  | .zeroSignificance f => f.name ++ " significance cannot be 0"
  | .negativeRoot => "SQRT of a negative number"
  | .zeroModulus => "MOD by zero"
  | .emptyInterval bottom top =>
    "RANDBETWEEN bottom " ++ toString bottom ++ " is greater than top " ++ toString top
  | .startBeforeText start => "MID start must be at least 1, got " ++ wholeText start
  | .textTooLong => "REPT result longer than " ++ toString repeatLimit ++ " characters"

/-- The bound on the number of arguments that a call breaks. -/
inductive ArgumentBound where
  | atLeast (count : Nat)
  | atMost (count : Nat)
  deriving DecidableEq

/-- The wording of a bound. -/
def ArgumentBound.message : ArgumentBound → String
  | .atLeast count => "at least " ++ toString count
  | .atMost count => "at most " ++ toString count

/-- Why an evaluation fails. -/
inductive Fault where
  | argument (why : ArgumentFault)
  | argumentCount (function : Builtin) (bound : ArgumentBound) (count : Nat)
  /-- A cell was reached whose value is still being sought. -/
  | circular (cell : CellRef)
  deriving DecidableEq

/-- The wording of a fault. -/
def Fault.message : Fault → String
  | .argument why => "Invalid argument: " ++ why.message
  | .argumentCount f bound count =>
    "Wrong number of arguments for " ++ f.name ++ ": expected " ++ bound.message ++ ", got " ++
      toString count
  | .circular cell => "Circular reference detected at " ++ cell.toText

end FormulaTable
