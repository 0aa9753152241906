import FormulaTable.Builtin.Ambient
import FormulaTable.Meaning.Dates
import FormulaTable.Meaning.Logic
import FormulaTable.Meaning.Statistics
import FormulaTable.Meaning.Wording

/-!
# `FormulaTable.Builtin.Call`: calling a function

`Builtin.query` says what each function asks and what it makes of the answers. `Builtin.call` checks
the number of arguments and holds the dialogue; `callNamed` is the call inside a formula, where a
failure becomes a sentinel and only a circular reference is passed on.
-/

set_option autoImplicit false

namespace FormulaTable

namespace Builtin

open Meaning

/-- What a function asks of `count` arguments, and what it makes of the answers. A function of
random numbers draws one where it is called. -/
def query (ambient : Ambient) (count : Nat) : Builtin → Query Value
  | .abs => overNumber Float.abs
  | .and => decideNumbers allTrue
  | .average => overNumbers mean
  | .ceiling => roundToMultiple .ceiling Float.ceil
  | .concat => joined
  | .concatenate => joined
  | .count => overNumbers fun xs => Float.ofNat xs.length
  | .countFilled => do return .number (Float.ofNat (filled (← Query.allTexts)))
  | .countIf => countMatches
  | .day => overDate ambient.now.date fun d => Float.ofNat d.day
  | .floor => roundToMultiple .floor Float.floor
  | .ifElse => conditional count
  | .int => overNumber Float.floor
  | .isBlank => decideText String.isEmpty
  | .isNumber => decideText spellsNumber
  | .isText => decideText isOtherText
  | .left => endOf Text.left
  | .len => lengthOf
  | .lower => overText Text.lower
  | .max => overNumbers largest
  | .median => overNumbers medianOf
  | .mid => partOf
  | .min => overNumbers smallest
  | .mod => remainder
  | .month => overDate ambient.now.date fun d => Float.ofNat d.month
  | .not => negation
  | .now => pure (.text ambient.now.text)
  | .or => decideNumbers someTrue
  | .pi => pure (.number circleNumber)
  | .power => toPower
  | .product => overNumbers productOf
  | .proper => overText Text.proper
  | .rand => pure (.number (unitOfDraw ambient.draw.here))
  | .randBetween => drawBetween ambient.draw.here
  | .rept => repetition
  | .right => endOf Text.right
  | .round => rounded
  | .sqrt => squareRoot
  | .stdev => overNumbers fun xs => (sampleVariance xs).sqrt
  | .substitute => replaced
  | .sum => overNumbers total
  | .sumIf => sumMatches count
  | .today => pure (.text ambient.now.date.text)
  | .trim => overText singleSpaced
  | .unique => distinctTexts
  | .upper => overText Text.upper
  | .variance => overNumbers sampleVariance
  | .year => overDate ambient.now.date fun d => Float.ofInt d.year

/-- The bound that a number of arguments breaks, if it breaks one. -/
def brokenBound? (f : Builtin) (count : Nat) : Option ArgumentBound :=
  if count < f.signature.least then some (.atLeast f.signature.least)
  else
    match f.signature.most with
    | some most => if most < count then some (.atMost most) else none
    | none => none

/-- Calls a function. The number of arguments is checked before any of them is read. -/
def call (ambient : Ambient) (f : Builtin) (arguments : List Reading) : Except Fault Value :=
  match f.brokenBound? arguments.length with
  | some bound => .error (.argumentCount f bound arguments.length)
  | none => (f.query ambient arguments.length).run arguments

/-- What a formula sees of the outcome of a call: a number that is not finite, and every fault but
a circular reference, become the sentinel of a failed function. -/
def contain : Except Fault Value → Except Fault Value
  | .ok (.number n) => .ok (if n.isFinite then .number n else .sentinel .failed)
  | .ok value => .ok value
  | .error (.circular cell) => .error (.circular cell)
  | .error _ => .ok (.sentinel .failed)

/-- A call inside a formula; a name that no function has gives a sentinel. -/
def callNamed (ambient : Ambient) (f : Option Builtin) (arguments : List Reading) :
    Except Fault Value :=
  match f with
  | none => .ok (.sentinel .unknownName)
  | some f => contain (f.call ambient arguments)

end Builtin
end FormulaTable
