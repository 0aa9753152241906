import FormulaTable.Json.Token
import FormulaTable.Number.Digits

/-!
# `FormulaTable.Json.Basic`: JSON values

`Json.ofTokens?` puts tokens together to a value. The containers that are still open are held in
a list of frames, so values may be nested to any depth.

`Json.fields?` reads a value as a record whose fields have known names. A record may be written
as an object, where unknown members are passed over, or as an array that holds the fields in
order.
-/

set_option autoImplicit false

namespace FormulaTable

/-- A JSON value. Numbers are kept as they are written. -/
inductive Json where
  | null
  | bool (value : Bool)
  | number (literal : List Char)
  | string (content : List Json.Piece)
  | array (items : List Json)
  | object (members : List (List Json.Piece × Json))

namespace Json

/-- A container that is still open, with what it holds so far, the last entry first. -/
inductive Frame where
  | array (done : List Json)
  /-- An object that waits for the value of the member `key`. -/
  | object (done : List (List Piece × Json)) (key : List Piece)

/-- Reads tokens to the end of the outermost value. `frames` holds the open containers, the
innermost first; `ready` is the value that has just been completed, if the next token follows
one. -/
def assemble (frames : List Frame) (ready : Option Json) : List Token → Option Json
  | [] =>
    match frames, ready with
    | [], some value => some value
    | _, _ => none
  | token :: rest =>
    match ready with
    | none =>
      match token, rest with
      | .null, rest => assemble frames (some .null) rest
      | .bool b, rest => assemble frames (some (.bool b)) rest
      | .number literal, rest => assemble frames (some (.number literal)) rest
      | .string content, rest => assemble frames (some (.string content)) rest
      | .openBracket, .closeBracket :: rest => assemble frames (some (.array [])) rest
      | .openBracket, rest => assemble (.array [] :: frames) none rest
      | .openBrace, .closeBrace :: rest => assemble frames (some (.object [])) rest
      | .openBrace, .string key :: .colon :: rest => assemble (.object [] key :: frames) none rest
      | _, _ => none
    | some value =>
      match frames, token, rest with
      | .array done :: outer, .comma, rest =>
        assemble (.array (value :: done) :: outer) none rest
      | .array done :: outer, .closeBracket, rest =>
        assemble outer (some (.array (value :: done).reverse)) rest
      | .object done key :: outer, .comma, .string next :: .colon :: rest =>
        assemble (.object ((key, value) :: done) next :: outer) none rest
      | .object done key :: outer, .closeBrace, rest =>
        assemble outer (some (.object ((key, value) :: done).reverse)) rest
      | _, _, _ => none

/-- The value that the tokens spell, if they spell exactly one. -/
def ofTokens? (tokens : List Token) : Option Json :=
  assemble [] none tokens

/-- The value that a text spells. -/
def ofString? (text : String) : Option Json := do
  ofTokens? (← Token.ofChars? text.toList)

/-! ## Records -/

/-- The values of the members with the given name. -/
def membersNamed (name : String) (members : List (List Piece × Json)) : List Json :=
  members.filterMap fun (key, value) =>
    if textOf? key = some name.toList then some value else none

/-- The value of a field: nothing if no member has its name, an error if several do. -/
def field? (members : List (List Piece × Json)) (name : String) : Option (Option Json) :=
  match membersNamed name members with
  | [] => some none
  | [value] => some (some value)
  | _ => none

/-- Reads a value as a record with the named fields; a field that is absent gives `none` in its
place. It is no record if it is neither an object nor an array, if the array has more entries than
there are fields, if a name is no text, or if a field is given twice. -/
def fields? (names : List String) : Json → Option (List (Option Json))
  | .array items =>
    if items.length ≤ names.length then
      some (items.map some ++ List.replicate (names.length - items.length) none)
    else none
  | .object members =>
    if members.all fun (key, _) => (textOf? key).isSome then names.mapM (field? members)
    else none
  | _ => none

/-- The text that a value holds, if it is a string and the string a text. -/
def text? : Json → Option String
  | .string content => (textOf? content).map String.ofList
  | _ => none

/-- The natural number that a value holds: one written with digits alone. -/
def natural? : Json → Option Nat
  | .number literal =>
    if literal.all Char.isDigit then some (decimalValue literal) else none
  | _ => none

/-- The entries of an array. -/
def items? : Json → Option (List Json)
  | .array items => some items
  | _ => none

end Json
end FormulaTable
