/-!
# `FormulaTable.Address.Column`: the letters of a column

Columns are named `A`, `B`, … `Z`, `AA`, `AB`, … The letters are the digits of a numeral to base
26 without a zero: `A` counts one and `Z` twenty-six, so every positive number has exactly one
name. Inside the table a column is its distance from the first, so `A` is 0.

`Column.ofLetters` reads a name, with letters of either case, and `Column.letters` writes it. A
name is read only as long as the number it counts stays below `indexLimit`.
-/

set_option autoImplicit false

namespace FormulaTable

/-- The number of indices a row or column number may take: those of 64 bits. -/
def indexLimit : Nat := 0x10000000000000000

/-- What is wrong with the text of an address. -/
inductive AddressError where
  /-- A column without a letter. -/
  | noLetters
  /-- A character that is no letter where a column was expected. -/
  | notALetter (c : Char)
  /-- A column beyond the last index. -/
  | columnTooLarge (letters : String)
  /-- A text that is no address at all. -/
  | notAnAddress (text : String)
  deriving DecidableEq, Repr

/-- The wording of an address error. -/
def AddressError.message (e : AddressError) : String :=
  "Invalid cell address: " ++
    match e with
    | .noLetters => "empty column letters"
    | .notALetter c => "invalid column letter '" ++ String.singleton c ++ "'"
    | .columnTooLarge letters => "column '" ++ letters ++ "' too large"
    | .notAnAddress text => text

namespace Column

/-- What one letter counts: `A` and `a` one, `Z` and `z` twenty-six. -/
def letterValue (c : Char) : Nat :=
  c.toUpper.toNat - 'A'.toNat + 1

/-- The number counted so far, followed by one more letter; `name` is the whole name. -/
def addLetter (name : List Char) (counted : Nat) (c : Char) : Except AddressError Nat :=
  if c.isAlpha then
    let total := counted * 26 + letterValue c
    if total < indexLimit then .ok total else .error (.columnTooLarge (String.ofList name))
  else .error (.notALetter c)

/-- The column with the given name. -/
def ofLetters (name : List Char) : Except AddressError Nat :=
  if name.isEmpty then .error .noLetters
  else (name.foldlM (addLetter name) 0).map (· - 1)

/-- The capital that stands for a digit below 26. -/
def letter (digit : Nat) : Char :=
  Char.ofNat ('A'.toNat + digit)

/-- The name of a column. -/
def letters (column : Nat) : List Char :=
  if column < 26 then [letter column]
  else letters (column / 26 - 1) ++ [letter (column % 26)]
termination_by column
decreasing_by omega

end Column
end FormulaTable
