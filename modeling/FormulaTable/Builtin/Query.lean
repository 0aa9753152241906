import FormulaTable.Formula.Fault
import FormulaTable.Formula.Value

/-!
# `FormulaTable.Builtin.Query`: what a function asks of its arguments

A function does not see its arguments but asks for their numbers or their texts. One argument may
give many of either, because it may be a range. A `Query` is such a dialogue: it asks, goes on with
the answer, and ends with a result or a refusal. `Query.run` holds the dialogue with actual
arguments. A fault met in reading an argument ends it at once.

An argument that is never asked for is never read, so it cannot disturb the result.
-/

set_option autoImplicit false

namespace FormulaTable

/-- An argument as a function meets it: the numbers and the texts it gives when it is read. -/
structure Reading where
  numbers : Unit → Except Fault (List Float)
  texts : Unit → Except Fault (List String)

/-- Which arguments a question is about. -/
inductive Source where
  | all
  /-- The one at the given place, if there is one. -/
  | only (index : Nat)
  deriving DecidableEq, Repr

/-- The arguments that a question is about. -/
def Source.pick {α : Type} (source : Source) (arguments : List α) : List α :=
  match source with
  | .all => arguments
  | .only index => arguments[index]?.toList

/-- What the items give, one list after the other; the first fault ends it. -/
def gather {α β : Type} (read : α → Except Fault (List β)) : List α → Except Fault (List β)
  | [] => .ok []
  | item :: rest => do
    let here ← read item
    let others ← gather read rest
    return here ++ others

/-- A dialogue about the arguments that ends with a result of type `α`. -/
inductive Query (α : Type) where
  | done (result : α)
  | refuse (why : ArgumentFault)
  | numbers (source : Source) (next : List Float → Query α)
  | texts (source : Source) (next : List String → Query α)

namespace Query

/-- Goes on with the result of a query. -/
def andThen {α β : Type} : Query α → (α → Query β) → Query β
  | .done result, next => next result
  | .refuse why, _ => .refuse why
  | .numbers source more, next => .numbers source fun xs => (more xs).andThen next
  | .texts source more, next => .texts source fun xs => (more xs).andThen next

instance : Monad Query where
  pure := .done
  bind := andThen

/-- Holds the dialogue with the given arguments. -/
def run {α : Type} (arguments : List Reading) : Query α → Except Fault α
  | .done result => .ok result
  | .refuse why => .error (.argument why)
  | .numbers source next => do
    let xs ← gather (fun r => r.numbers ()) (source.pick arguments)
    (next xs).run arguments
  | .texts source next => do
    let xs ← gather (fun r => r.texts ()) (source.pick arguments)
    (next xs).run arguments

/-! ## Questions -/

/-- The numbers of all arguments. -/
def allNumbers : Query (List Float) :=
  .numbers .all .done

/-- The texts of all arguments. -/
def allTexts : Query (List String) :=
  .texts .all .done

/-- The texts of one argument. -/
def textsAt (index : Nat) : Query (List String) :=
  .texts (.only index) .done

/-- The first number of an argument, if it gives one. -/
def number? (index : Nat) : Query (Option Float) :=
  .numbers (.only index) fun xs => .done xs.head?

/-- The first number of an argument; zero if it gives none. -/
def number (index : Nat) : Query Float :=
  .numbers (.only index) fun xs => .done (xs.head?.getD 0)

/-- The first text of an argument; empty if it gives none. -/
def text (index : Nat) : Query String :=
  .texts (.only index) fun xs => .done (xs.head?.getD "")

end Query
end FormulaTable
