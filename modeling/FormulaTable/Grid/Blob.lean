import FormulaTable.Grid.Basic
import FormulaTable.Json.Basic

/-!
# `FormulaTable.Grid.Blob`: the stored form of a grid

A note stores its table as one JSON text, the blob: a record with the field `data`, an array of
rows, each an array of cells, each a record with the field `value`, the raw text.

`Grid.toBlob` writes the blob. `Grid.ofBlob` reads one and never fails: a text that holds no cell,
for whatever reason, gives the blank grid of the configured size, and short rows are padded.
`GridConfig.ofJson?` reads that size, and does refuse what it cannot read.
-/

set_option autoImplicit false

namespace FormulaTable

open Json (Token)

/-- The raw text that a cell of a blob holds; blank if it holds none. -/
def rawOfJson? (cell : Json) : Option String := do
  match ← cell.fields? ["value"] with
  | [some value] => value.text?
  | _ => some ""

/-- The rows of raw texts that a blob holds. -/
def rowsOfJson? (blob : Json) : Option (List (List String)) := do
  match ← blob.fields? ["data"] with
  | [some data] => (← data.items?).mapM fun row => do (← row.items?).mapM rawOfJson?
  | _ => none

/-- The rows of raw texts of a blob, if the text is one. -/
def rowsOfBlob? (text : String) : Option (List (List String)) := do
  rowsOfJson? (← Json.ofString? text)

/-- A number of rows or columns: the default if the field is absent. -/
def sizeOfField? (default : Nat) : Option Json → Option Nat
  | none => some default
  | some value => do
    let size ← value.natural?
    if size < indexLimit then some size else none

/-- Reads a configuration from a JSON record whose fields may be absent. -/
def GridConfig.ofJson? (text : String) : Option GridConfig := do
  let config : GridConfig := {}
  match ← (← Json.ofString? text).fields? ["default_rows", "default_cols"] with
  | [rows, cols] =>
    return {
      defaultRows := ← sizeOfField? config.defaultRows rows
      defaultCols := ← sizeOfField? config.defaultCols cols }
  | _ => none

namespace Grid

/-- The grid stored in a blob; the blank grid of the configured size if the text holds no cell. -/
def ofBlob (config : GridConfig) (text : String) : Grid :=
  ((rowsOfBlob? text).bind ofRows?).getD (ofConfig config)

/-- Lists of tokens with a comma between each two. -/
def separated : List (List Token) → List Token
  | [] => []
  | [item] => item
  | item :: rest => item ++ .comma :: separated rest

/-- The tokens of an array whose entries have the given tokens. -/
def arrayTokens (items : List (List Token)) : List Token :=
  .openBracket :: (separated items ++ [.closeBracket])

/-- The tokens of one cell. -/
def cellTokens (raw : String) : List Token :=
  [.openBrace, .ofText "value", .colon, .ofText raw, .closeBrace]

/-- The tokens of a blob. -/
def blobTokens (g : Grid) : List Token :=
  [.openBrace, .ofText "data", .colon] ++
    arrayTokens (g.rows.map fun row => arrayTokens (row.map cellTokens)) ++ [.closeBrace]

/-- The blob of a grid. -/
def toBlob (g : Grid) : String :=
  Token.join g.blobTokens

end Grid
end FormulaTable
