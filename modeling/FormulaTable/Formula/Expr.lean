import FormulaTable.Address.Range
import FormulaTable.Builtin.Lookup
import FormulaTable.Formula.Call
import FormulaTable.Number.Decimal

/-!
# `FormulaTable.Formula.Expr`: the forms of a formula

The text of a formula, without the `=` in front, has one of five forms:

1. a call, such as `SUM(A1:A3, 10)`, that fills the whole text;
2. the address of a cell;
3. simple arithmetic: an address, one of `+ - * /`, and an address or a number;
4. a number;
5. any other text, which has no value.

`Expr.ofBody` finds the form. The arguments of a call have forms of their own, which `Arg.ofChars`
finds; some forms have a number but no text of their own, so an argument keeps its source.
-/

set_option autoImplicit false

namespace FormulaTable

/-- The operators of simple arithmetic. -/
inductive Operator where
  | add
  | sub
  | mul
  | div
  deriving DecidableEq, Repr

/-- The operator that a character stands for. -/
def Operator.ofChar? : Char → Option Operator
  | '+' => some .add
  | '-' => some .sub
  | '*' => some .mul
  | '/' => some .div
  | _ => none

/-- One side of simple arithmetic. -/
inductive Operand where
  | cell (c : CellRef)
  | number (n : Float)
  deriving DecidableEq

/-- Reads one side of simple arithmetic. An address beyond all tables, such as one with row zero,
counts as the number zero, and so does a number that is not finite. -/
def Operand.ofChars (text : List Char) : Operand :=
  match CellRef.ofChars? text with
  | some c => .cell c
  | none => .number ((parseNumber text).getD 0)

mutual

/-- A formula by its form. -/
inductive Expr where
  /-- A call; `none` stands for a name that no function has. -/
  | call (function : Option Builtin) (arguments : List Arg)
  | cell (c : CellRef)
  | arithmetic (left : Operand) (operator : Operator) (right : Operand)
  | number (n : Float)
  /-- A text of no form. -/
  | formless

/-- An argument of a call by its form. -/
inductive Arg where
  /-- A quoted text, or a text with a colon that is no range. -/
  | plain (text : String)
  /-- A call; `none` stands for a name that no function has. -/
  | call (function : Option Builtin) (arguments : List Arg)
  | range (r : CellRange)
  | cell (c : CellRef)
  | number (n : Float) (source : String)
  /-- Anything else, as a formula. -/
  | other (e : Expr) (source : String)

end

/-! ## Simple arithmetic -/

/-- Whether a text has the shape of an address. -/
def isAddressShaped (text : List Char) : Bool :=
  (CellRef.splitAddress? text).isSome

/-- Whether a text is a row of digits, perhaps with a point and more digits after them. -/
def isUnsignedDecimal (text : List Char) : Bool :=
  let afterWhole := text.dropWhile Char.isDigit
  text.head?.any Char.isDigit &&
    match afterWhole with
    | [] => true
    | c :: fraction => c == '.' && !fraction.isEmpty && fraction.all Char.isDigit

/-- Takes simple arithmetic apart into its sides and the operator between them. Blanks may stand
around the operator. -/
def splitArithmetic? (body : List Char) : Option (List Char × Operator × List Char) :=
  let afterLetters := body.dropWhile Char.isAlpha
  let left := body.takeWhile Char.isAlpha ++ afterLetters.takeWhile Char.isDigit
  match Text.trimStart (afterLetters.dropWhile Char.isDigit) with
  | [] => none
  | mark :: rest =>
    let right := Text.trimStart rest
    match Operator.ofChar? mark with
    | some operator =>
      if isAddressShaped left && (isAddressShaped right || isUnsignedDecimal right) then
        some (left, operator, right)
      else none
    | none => none

/-! ## Finding the form -/

mutual

/-- Finds the form of a formula, with blanks around it. -/
def Expr.ofBody (body : List Char) : Expr :=
  match _h : splitCall? (Text.trim body) with
  | some (name, inner) =>
    .call (Builtin.ofName? name) ((arguments inner).attach.map fun piece => Arg.ofChars piece.val)
  | none =>
    match CellRef.ofChars? (Text.trim body) with
    | some c => .cell c
    | none =>
      match splitArithmetic? (Text.trim body) with
      | some (left, operator, right) =>
        .arithmetic (Operand.ofChars left) operator (Operand.ofChars right)
      | none =>
        match parseNumber (Text.trim body) with
        | some n => .number n
        | none => .formless
termination_by 2 * body.length
decreasing_by
  have := length_lt_of_splitCall? _h
  have := Text.length_trim_le body
  have := length_le_of_mem_arguments piece.property
  omega

/-- Finds the form of an argument. -/
def Arg.ofChars (text : List Char) : Arg :=
  match unquote? text with
  | some inner => .plain (String.ofList inner)
  | none =>
    match _h : splitCall? text with
    | some (name, inner) =>
      .call (Builtin.ofName? name) ((arguments inner).attach.map fun piece => Arg.ofChars piece.val)
    | none =>
      if text.contains ':' then
        match CellRange.ofChars? text with
        | some r => .range r
        | none => .plain (String.ofList text)
      else
        match CellRef.ofChars? text with
        | some c => .cell c
        | none =>
          match parseNumber text with
          | some n => .number n (String.ofList text)
          | none => .other (Expr.ofBody text) (String.ofList text)
termination_by 2 * text.length + 1
decreasing_by
  · have := length_lt_of_splitCall? _h
    have := length_le_of_mem_arguments piece.property
    omega
  · omega

end

/-- The text of a formula without the `=` in front, which may be left out. -/
def bodyOf : List Char → List Char
  | '=' :: body => body
  | body => body

/-- Finds the form of a formula, with or without the `=` in front. -/
def Expr.ofFormula (formula : String) : Expr :=
  Expr.ofBody (bodyOf formula.toList)

/-- Finds the form of an argument. -/
def Arg.ofString (text : String) : Arg :=
  Arg.ofChars text.toList

end FormulaTable
