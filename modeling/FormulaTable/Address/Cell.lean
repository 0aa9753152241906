import FormulaTable.Address.Column
import FormulaTable.Number.Digits
import FormulaTable.Text.Blank

/-!
# `FormulaTable.Address.Cell`: the address of a cell

An address such as `B3` is the name of a column followed by the number of a row, counted from
one. `CellRef` holds both as distances from the top left cell. `CellRef.ofChars?` reads an
address with blanks around it; `CellRef.chars` writes it.
-/

set_option autoImplicit false

namespace FormulaTable

/-- A place in a table, counted from the top left cell, which is at row 0 and column 0. -/
structure CellRef where
  /-- The number of rows above the cell. -/
  row : Nat
  /-- The number of columns to the left of the cell. -/
  col : Nat
  deriving DecidableEq, Repr

namespace CellRef

/-- The row with the given number: it must be at least 1 and an index. -/
def rowOfDigits? (digits : List Char) : Option Nat :=
  let number := decimalValue digits
  if 0 < number && number < indexLimit then some (number - 1) else none

/-- Splits a text into letters and the digits after them; nothing may follow, and neither part may
be empty. -/
def splitAddress? (text : List Char) : Option (List Char × List Char) :=
  let letters := text.takeWhile Char.isAlpha
  let digits := text.dropWhile Char.isAlpha
  if !letters.isEmpty && !digits.isEmpty && digits.all Char.isDigit then some (letters, digits)
  else none

/-- Reads an address, with blanks around it and letters of either case. -/
def ofChars? (text : List Char) : Option CellRef := do
  let (letters, digits) ← splitAddress? (Text.trim text)
  let col ← (Column.ofLetters letters).toOption
  let row ← rowOfDigits? digits
  return { row, col }

/-- Reads an address. -/
def ofString? (text : String) : Option CellRef :=
  ofChars? text.toList

/-- Reads an address, and names the text if it is none. -/
def ofString (text : String) : Except AddressError CellRef :=
  match ofString? text with
  | some cell => .ok cell
  | none => .error (.notAnAddress text)

/-- The address of a cell as characters. -/
def chars (cell : CellRef) : List Char :=
  Column.letters cell.col ++ Nat.toDigits 10 (cell.row + 1)

/-- The address of a cell. -/
def toText (cell : CellRef) : String :=
  String.ofList cell.chars

end CellRef
end FormulaTable
