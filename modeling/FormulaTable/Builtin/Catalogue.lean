/-!
# `FormulaTable.Builtin.Catalogue`: the functions of a table

Every function has a name, bounds on the number of its arguments, and a mark if its result may
change while the table does not. `Builtin.all` lists the functions in the order of their names.
-/

set_option autoImplicit false

namespace FormulaTable

/-- The functions that formulas can call. -/
inductive Builtin where
  /-- The size of a number. -/
  | abs
  /-- Whether no number is zero. -/
  | and
  | average
  /-- A number rounded up to a multiple. -/
  | ceiling
  | concat
  | concatenate
  | count
  /-- How many texts are not empty. -/
  | countFilled
  /-- How many texts equal a given one. -/
  | countIf
  | day
  /-- A number rounded down to a multiple. -/
  | floor
  /-- One of two arguments, as a condition decides. -/
  | ifElse
  | int
  /-- Whether a text is empty. -/
  | isBlank
  /-- Whether a text spells a number. -/
  | isNumber
  /-- Whether a text is neither empty nor a number. -/
  | isText
  | left
  | len
  | lower
  | max
  | median
  | mid
  | min
  | mod
  | month
  /-- Whether a number is zero. -/
  | not
  | now
  /-- Whether a number is not zero. -/
  | or
  | pi
  | power
  | product
  | proper
  /-- A random number below one. -/
  | rand
  /-- A random whole number between two bounds. -/
  | randBetween
  | rept
  | right
  | round
  | sqrt
  | stdev
  | substitute
  | sum
  /-- The sum of the numbers whose partners equal a text. -/
  | sumIf
  | today
  /-- A text with single blanks between its words. -/
  | trim
  /-- The distinct texts. -/
  | unique
  | upper
  | variance
  | year
  deriving DecidableEq, Repr

/-- What is known of a function without calling it. -/
structure Signature where
  name : String
  least : Nat
  /-- The greatest number of arguments, if there is one. -/
  most : Option Nat
  /-- Whether the result may change while the table does not. -/
  volatile : Bool := false
  deriving DecidableEq, Repr

namespace Builtin

/-- The signature of each function. -/
def signature : Builtin → Signature
  | .abs => { name := "ABS", least := 1, most := some 1 }
  | .and => { name := "AND", least := 1, most := none }
  | .average => { name := "AVERAGE", least := 1, most := none }
  | .ceiling => { name := "CEILING", least := 1, most := some 2 }
  | .concat => { name := "CONCAT", least := 1, most := none }
  | .concatenate => { name := "CONCATENATE", least := 1, most := none }
  | .count => { name := "COUNT", least := 1, most := none }
  | .countFilled => { name := "COUNTA", least := 1, most := none }
  | .countIf => { name := "COUNTIF", least := 2, most := some 2 }
  | .day => { name := "DAY", least := 0, most := some 1 }
  | .floor => { name := "FLOOR", least := 1, most := some 2 }
  | .ifElse => { name := "IF", least := 2, most := some 3 }
  | .int => { name := "INT", least := 1, most := some 1 }
  | .isBlank => { name := "ISBLANK", least := 1, most := some 1 }
  | .isNumber => { name := "ISNUMBER", least := 1, most := some 1 }
  | .isText => { name := "ISTEXT", least := 1, most := some 1 }
  | .left => { name := "LEFT", least := 1, most := some 2 }
  | .len => { name := "LEN", least := 1, most := some 1 }
  | .lower => { name := "LOWER", least := 1, most := some 1 }
  | .max => { name := "MAX", least := 1, most := none }
  | .median => { name := "MEDIAN", least := 1, most := none }
  | .mid => { name := "MID", least := 3, most := some 3 }
  | .min => { name := "MIN", least := 1, most := none }
  | .mod => { name := "MOD", least := 2, most := some 2 }
  | .month => { name := "MONTH", least := 0, most := some 1 }
  | .not => { name := "NOT", least := 1, most := some 1 }
  | .now => { name := "NOW", least := 0, most := some 0, volatile := true }
  | .or => { name := "OR", least := 1, most := none }
  | .pi => { name := "PI", least := 0, most := some 0 }
  | .power => { name := "POWER", least := 2, most := some 2 }
  | .product => { name := "PRODUCT", least := 1, most := none }
  | .proper => { name := "PROPER", least := 1, most := some 1 }
  | .rand => { name := "RAND", least := 0, most := some 0, volatile := true }
  | .randBetween => { name := "RANDBETWEEN", least := 2, most := some 2, volatile := true }
  | .rept => { name := "REPT", least := 2, most := some 2 }
  | .right => { name := "RIGHT", least := 1, most := some 2 }
  | .round => { name := "ROUND", least := 1, most := some 2 }
  | .sqrt => { name := "SQRT", least := 1, most := some 1 }
  | .stdev => { name := "STDEV", least := 1, most := none }
  | .substitute => { name := "SUBSTITUTE", least := 3, most := some 3 }
  | .sum => { name := "SUM", least := 1, most := none }
  | .sumIf => { name := "SUMIF", least := 2, most := some 3 }
  | .today => { name := "TODAY", least := 0, most := some 0, volatile := true }
  | .trim => { name := "TRIM", least := 1, most := some 1 }
  | .unique => { name := "UNIQUE", least := 1, most := none }
  | .upper => { name := "UPPER", least := 1, most := some 1 }
  | .variance => { name := "VAR", least := 1, most := none }
  | .year => { name := "YEAR", least := 0, most := some 1 }

/-- All functions, in the order of their names. -/
def all : List Builtin :=
  [.abs, .and, .average, .ceiling, .concat, .concatenate, .count, .countFilled, .countIf, .day,
    .floor, .ifElse, .int, .isBlank, .isNumber, .isText, .left, .len, .lower, .max, .median,
    .mid, .min, .mod, .month, .not, .now, .or, .pi, .power, .product, .proper, .rand,
    .randBetween, .rept, .right, .round, .sqrt, .stdev, .substitute, .sum, .sumIf, .today, .trim,
    .unique, .upper, .variance, .year]

/-- The name of a function. -/
def name (f : Builtin) : String :=
  f.signature.name

end Builtin
end FormulaTable
