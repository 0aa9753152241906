import FormulaTable.Builtin.Query
import FormulaTable.Text.Case
import FormulaTable.Text.Slice

/-!
# `FormulaTable.Meaning.Wording`: functions of texts

Positions and lengths count characters. A number that says how many is rounded down, and a negative
one means none.
-/

set_option autoImplicit false

namespace FormulaTable.Meaning

/-- The texts one after the other. -/
def joined : Query Value := do
  return .text (String.join (← Query.allTexts))

/-- A change made to one text. -/
def overText (f : List Char → List Char) : Query Value := do
  return .text (String.ofList (f (← Query.text 0).toList))

/-- The words of a text with single spaces between them. -/
def singleSpaced (text : List Char) : List Char :=
  [' '].intercalate (Text.words text)

/-- The length of a text. -/
def lengthOf : Query Value := do
  return .number (Float.ofNat (← Query.text 0).length)

/-- A part at one end of a text; one character unless the second argument says how many. -/
def endOf (part : Nat → List Char → List Char) : Query Value := do
  let s ← Query.text 0
  let count := (← Query.number? 1).getD 1
  return .text (String.ofList (part (countOf count) s.toList))

/-- The part of a text that begins at a position, counted from one, and is so many characters
long. -/
def partOf : Query Value := do
  let s ← Query.text 0
  let position ← Query.number 1
  let count ← Query.number 2
  let start := (Binary.ofFloat position).floor
  if start < 1 then .refuse (.startBeforeText position.floor)
  else return .text (String.ofList (Text.middle (start.toNat - 1) (countOf count) s.toList))

/-- A text with every occurrence of the second replaced by the third. -/
def replaced : Query Value := do
  let s ← Query.text 0
  let old ← Query.text 1
  let new ← Query.text 2
  return .text (String.ofList (Text.replaceAll old.toList new.toList s.toList))

/-- A text several times over, unless it becomes too long. -/
def repetition : Query Value := do
  let s ← Query.text 0
  let count := countOf (← Query.number 1)
  if repeatLimit < s.length * count then .refuse .textTooLong
  else return .text (String.ofList (Text.repeated count s.toList))

end FormulaTable.Meaning
