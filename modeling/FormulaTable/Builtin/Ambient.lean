import FormulaTable.Address.Cell
import FormulaTable.Calendar.Date

/-!
# `FormulaTable.Builtin.Ambient`: the clock and the numbers that are drawn

An evaluation reads the clock once. Random numbers are drawn anew by every call, so one cell may
show one number and stand for another where a formula refers to it.

What an evaluation may draw is laid down beforehand, as one number for each of its places. A place
is the list of turns that lead to it from the outermost formula, and no evaluation comes to a place
twice: the operands of arithmetic are two turns, each argument has a turn of its own for each of its
readings, and a cell is entered by one more. `Draws.toward` is what is laid down behind a turn.
-/

set_option autoImplicit false

namespace FormulaTable

/-- A turn on the way from a formula to a place in it. -/
inductive Turn where
  /-- To the left operand of arithmetic. -/
  | left
  /-- To the right operand of arithmetic. -/
  | right
  /-- To the first argument, for its numbers. -/
  | numbers
  /-- To the first argument, for its texts. -/
  | texts
  /-- Past the first argument. -/
  | next
  /-- To the formula of a cell. -/
  | inside (cell : CellRef)
  deriving DecidableEq, Repr

/-- The number that is drawn at each place, if one is. -/
structure Draws where
  number : List Turn → Nat

namespace Draws

/-- What a call draws where it stands. -/
def here (draws : Draws) : Nat :=
  draws.number []

/-- The draws behind a turn. -/
def toward (draws : Draws) (turn : Turn) : Draws :=
  ⟨fun place => draws.number (turn :: place)⟩

/-! ## A generator -/

/-- Spreads the bits of a word. -/
def scramble (word : UInt64) : UInt64 :=
  let word := (word ^^^ (word >>> 30)) * 0xbf58476d1ce4e5b9
  let word := (word ^^^ (word >>> 27)) * 0x94d049bb133111eb
  word ^^^ (word >>> 31)

/-- A word for each turn. -/
def word : Turn → UInt64
  | .left => 1
  | .right => 2
  | .numbers => 3
  | .texts => 4
  | .next => 5
  | .inside cell => scramble (scramble cell.row.toUInt64 + cell.col.toUInt64)

/-- The draws of a generator. Each turn scrambles what the turns before it have made of the seed. -/
def ofSeed (seed : Nat) : Draws where
  number := fun place =>
    (place.foldl (fun state turn => scramble (state + 0x9e3779b97f4a7c15 * (word turn + 1)))
      (scramble seed.toUInt64)).toNat

/-- A numeral for draws is the seed of their generator. -/
instance (seed : Nat) : OfNat Draws seed :=
  ⟨ofSeed seed⟩

end Draws

/-- What an evaluation sees of the world outside the table: the moment by the clock, and the numbers
that it will draw. -/
structure Ambient where
  now : Moment
  draw : Draws

/-- The world outside as a place behind a turn sees it. The clock is the same there. -/
def Ambient.toward (ambient : Ambient) (turn : Turn) : Ambient :=
  { ambient with draw := ambient.draw.toward turn }

end FormulaTable
