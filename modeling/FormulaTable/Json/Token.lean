import FormulaTable.Text.Slice

/-!
# `FormulaTable.Json.Token`: the tokens of JSON

`Token.ofChars?` cuts a JSON text into tokens and `Token.chars` writes one. Reading is strict:
only space, tab, line feed and carriage return separate tokens, a number has no leading zero, and
a string holds no control character as it is.

A string may hold the escape of a surrogate that belongs to no pair. Such a string is well formed
but is no text; the token therefore keeps the pieces of the string, and `textOf?` decides.
-/

set_option autoImplicit false

namespace FormulaTable.Json

/-- The mark at either end of a string. -/
def quoteMark : Char := '\x22'

/-- The character that starts an escape. -/
def backslash : Char := '\x5c'

/-- One piece of a string: a character, or one escaped half of a surrogate pair. -/
inductive Piece where
  /-- A character, however it was written. -/
  | char (c : Char)
  /-- An escaped surrogate. -/
  | surrogate (code : Nat)
  deriving DecidableEq, Repr

/-- The piece an escape of four hexadecimal digits stands for. -/
def Piece.ofCode (code : Nat) : Piece :=
  if 0xD800 ≤ code && code ≤ 0xDFFF then .surrogate code else .char (Char.ofNat code)

/-- The text that a string holds: surrogates combine in pairs, a high one and then a low one, and
one that is left over makes the string no text. -/
def textOf? : List Piece → Option (List Char)
  | [] => some []
  | .char c :: rest => (textOf? rest).map (c :: ·)
  | .surrogate high :: .surrogate low :: rest =>
    if high < 0xDC00 && 0xDC00 ≤ low then
      (textOf? rest).map (Char.ofNat (0x10000 + (high - 0xD800) * 0x400 + (low - 0xDC00)) :: ·)
    else none
  | .surrogate _ :: _ => none

/-- The tokens of JSON. -/
inductive Token where
  | openBrace
  | closeBrace
  | openBracket
  | closeBracket
  | comma
  | colon
  | null
  | bool (value : Bool)
  | number (literal : List Char)
  /-- A string, without its quotation marks. -/
  | string (content : List Piece)
  deriving DecidableEq, Repr

/-! ## Reading -/

/-- The value of a hexadecimal digit. -/
def hexValue? (c : Char) : Option Nat :=
  if '0' ≤ c && c ≤ '9' then some (c.toNat - '0'.toNat)
  else if 'a' ≤ c && c ≤ 'f' then some (c.toNat - 'a'.toNat + 10)
  else if 'A' ≤ c && c ≤ 'F' then some (c.toNat - 'A'.toNat + 10)
  else none

/-- The characters that a backslash and one more character stand for. -/
def shortEscapes : List (Char × Char) :=
  [(quoteMark, quoteMark), (backslash, backslash), ('/', '/'), ('b', '\x08'), ('f', '\x0c'),
    ('n', '\n'), ('r', '\x0d'), ('t', '\t')]

/-- Where in a string the reader stands. -/
inductive Inside where
  | plain
  | escape
  /-- Inside an escape by code: so many digits are still to come, after those that make `value`. -/
  | code (missing value : Nat)

/-- Reads the rest of a string up to its closing mark; `done` holds the pieces already read, the
last one first. Also gives the text after the string. -/
def readString (state : Inside) (done : List Piece) :
    List Char → Option (List Piece × List Char)
  | [] => none
  | c :: rest =>
    match state with
    | .plain =>
      if c = quoteMark then some (done.reverse, rest)
      else if c = backslash then readString .escape done rest
      else if c.toNat < 0x20 then none
      else readString .plain (.char c :: done) rest
    | .escape =>
      if c = 'u' then readString (.code 4 0) done rest
      else match shortEscapes.lookup c with
        | some plain => readString .plain (.char plain :: done) rest
        | none => none
    | .code missing value =>
      match hexValue? c with
      | none => none
      | some digit =>
        let value := value * 16 + digit
        if missing ≤ 1 then readString .plain (.ofCode value :: done) rest
        else readString (.code (missing - 1) value) done rest

/-- The text after a row of digits, of which there must be one. -/
def skipDigits? : List Char → Option (List Char)
  | [] => none
  | c :: rest => if c.isDigit then some (rest.dropWhile Char.isDigit) else none

/-- The text after a whole number without a leading zero. -/
def skipInteger? : List Char → Option (List Char)
  | '0' :: rest => some rest
  | text => skipDigits? text

/-- The text after the digits behind a point, if there is a point. -/
def skipFraction? : List Char → Option (List Char)
  | '.' :: rest => skipDigits? rest
  | text => some text

/-- The text without a sign in front. -/
def skipSign : List Char → List Char
  | '+' :: rest => rest
  | '-' :: rest => rest
  | text => text

/-- The text after a power of ten, if there is one. -/
def skipExponent? : List Char → Option (List Char)
  | 'e' :: rest => skipDigits? (skipSign rest)
  | 'E' :: rest => skipDigits? (skipSign rest)
  | text => some text

/-- The text without a minus sign in front. -/
def skipMinus : List Char → List Char
  | '-' :: rest => rest
  | text => text

/-- The text after a number. -/
def skipNumber? (text : List Char) : Option (List Char) := do
  let afterInteger ← skipInteger? (skipMinus text)
  let afterFraction ← skipFraction? afterInteger
  skipExponent? afterFraction

/-- The token that begins with `c` and goes on in `rest`, and the text after it. -/
def Token.read? (c : Char) (rest : List Char) : Option (Token × List Char) :=
  match c with
  | '\x7b' => some (.openBrace, rest)
  | '\x7d' => some (.closeBrace, rest)
  | '[' => some (.openBracket, rest)
  | ']' => some (.closeBracket, rest)
  | ',' => some (.comma, rest)
  | ':' => some (.colon, rest)
  | 'n' => (Text.dropFront? "ull".toList rest).map (.null, ·)
  | 't' => (Text.dropFront? "rue".toList rest).map (.bool true, ·)
  | 'f' => (Text.dropFront? "alse".toList rest).map (.bool false, ·)
  | '\x22' => (readString .plain [] rest).map fun (content, after) => (.string content, after)
  | _ =>
    (skipNumber? (c :: rest)).map fun after =>
      (.number ((c :: rest).take (rest.length + 1 - after.length)), after)

/-- What may separate tokens. -/
def isSeparator (c : Char) : Bool :=
  c == ' ' || c == '\t' || c == '\n' || c == '\x0d'

/-! ### A token takes up at least one character -/

/-- A string takes up its closing quotation mark at least. -/
theorem length_readString_lt {state : Inside} {done content : List Piece} {text after : List Char}
    (h : readString state done text = some (content, after)) : after.length < text.length := by
  fun_induction readString state done text <;> simp_all <;> omega

/-- A row of digits has one at least. -/
theorem length_skipDigits?_lt {text after : List Char} (h : skipDigits? text = some after) :
    after.length < text.length := by
  cases text with
  | nil => simp [skipDigits?] at h
  | cons c rest =>
    simp only [skipDigits?] at h
    split at h
    · have hle := (List.dropWhile_suffix (l := rest) Char.isDigit).length_le
      cases h
      exact Nat.lt_succ_of_le hle
    · simp at h

/-- An integer takes a character at least. -/
theorem length_skipInteger?_lt {text after : List Char} (h : skipInteger? text = some after) :
    after.length < text.length := by
  unfold skipInteger? at h
  split at h
  · simp_all
  · exact length_skipDigits?_lt h

/-- Behind a fraction, or where there is none, the text is no longer. -/
theorem length_skipFraction?_le {text after : List Char} (h : skipFraction? text = some after) :
    after.length ≤ text.length := by
  unfold skipFraction? at h
  split at h
  · have := length_skipDigits?_lt h
    simp only [List.length_cons]
    omega
  · simp_all

/-- Behind a sign, or where there is none, the text is no longer. -/
theorem length_skipSign_le (text : List Char) : (skipSign text).length ≤ text.length := by
  unfold skipSign
  split <;> simp

/-- Behind a minus, or where there is none, the text is no longer. -/
theorem length_skipMinus_le (text : List Char) : (skipMinus text).length ≤ text.length := by
  unfold skipMinus
  split <;> simp

/-- Behind an exponent, or where there is none, the text is no longer. -/
theorem length_skipExponent?_le {text after : List Char} (h : skipExponent? text = some after) :
    after.length ≤ text.length := by
  unfold skipExponent? at h
  split at h
  · next rest =>
    have := length_skipDigits?_lt h
    have := length_skipSign_le rest
    simp only [List.length_cons]
    omega
  · next rest =>
    have := length_skipDigits?_lt h
    have := length_skipSign_le rest
    simp only [List.length_cons]
    omega
  · simp_all

/-- A number takes a character at least. -/
theorem length_skipNumber?_lt {text after : List Char} (h : skipNumber? text = some after) :
    after.length < text.length := by
  simp only [skipNumber?, Option.bind_eq_bind, Option.bind_eq_some_iff] at h
  obtain ⟨afterInteger, hi, afterFraction, hf, he⟩ := h
  -- Only the whole part must be there; the sign, the fraction and the exponent may be empty.
  have := length_skipMinus_le text
  have := length_skipInteger?_lt hi
  have := length_skipFraction?_le hf
  have := length_skipExponent?_le he
  omega

/-- A token takes up its first character and perhaps more. -/
theorem Token.length_read?_le {c : Char} {rest after : List Char} {token : Token}
    (h : Token.read? c rest = some (token, after)) : after.length ≤ rest.length := by
  unfold Token.read? at h
  split at h
  case h_7 | h_8 | h_9 =>
    obtain ⟨_, hdrop, h⟩ := Option.map_eq_some_iff.mp h
    have hlength := Text.length_of_dropFront? hdrop
    cases h
    omega
  case h_10 =>
    obtain ⟨⟨_, _⟩, hread, h⟩ := Option.map_eq_some_iff.mp h
    have hlength := length_readString_lt hread
    cases h
    exact Nat.le_of_lt hlength
  case h_11 =>
    obtain ⟨_, hskip, h⟩ := Option.map_eq_some_iff.mp h
    have hlength := length_skipNumber?_lt hskip
    cases h
    exact Nat.le_of_lt_succ hlength
  all_goals
    cases h
    exact Nat.le_refl _

/-- Cuts a text into tokens; `done` holds those already read, the last one first. -/
def Token.readAll (done : List Token) (text : List Char) : Option (List Token) :=
  match text with
  | [] => some done.reverse
  | c :: rest =>
    if isSeparator c then readAll done rest
    else
      match _h : Token.read? c rest with
      | none => none
      | some (token, after) => readAll (token :: done) after
termination_by text.length
decreasing_by
  · simp
  · have := Token.length_read?_le _h
    simp only [List.length_cons]
    omega

/-- The tokens of a text, if it consists of tokens. -/
def Token.ofChars? (text : List Char) : Option (List Token) :=
  Token.readAll [] text

/-! ## Writing -/

/-- The hexadecimal digit for a number below sixteen, in small letters. -/
def hexDigit (value : Nat) : Char :=
  if value < 10 then Char.ofNat ('0'.toNat + value) else Char.ofNat ('a'.toNat + (value - 10))

/-- An escape by code. -/
def codeEscape (code : Nat) : List Char :=
  [backslash, 'u', hexDigit (code / 0x1000 % 16), hexDigit (code / 0x100 % 16),
    hexDigit (code / 0x10 % 16), hexDigit (code % 16)]

/-- The short escapes that are written; a solidus stands for itself. -/
def writtenEscapes : List (Char × Char) :=
  [(quoteMark, quoteMark), (backslash, backslash), ('\x08', 'b'), ('\t', 't'), ('\n', 'n'),
    ('\x0c', 'f'), ('\x0d', 'r')]

/-- One piece as it is written: quotation marks, backslashes and control characters are escaped,
every other character stands for itself. -/
def Piece.chars : Piece → List Char
  | .char c =>
    match writtenEscapes.lookup c with
    | some short => [backslash, short]
    | none => if c.toNat < 0x20 then codeEscape c.toNat else [c]
  | .surrogate code => codeEscape code

/-- A token as it is written. -/
def Token.chars : Token → List Char
  | .openBrace => ['\x7b']
  | .closeBrace => ['\x7d']
  | .openBracket => ['[']
  | .closeBracket => [']']
  | .comma => [',']
  | .colon => [':']
  | .null => "null".toList
  | .bool true => "true".toList
  | .bool false => "false".toList
  | .number literal => literal
  | .string content => quoteMark :: (content.flatMap Piece.chars ++ [quoteMark])

/-- The token of a string that holds `text`. -/
def Token.ofText (text : String) : Token :=
  .string (text.toList.map .char)

/-- Tokens written one after the other, with nothing between them. -/
def Token.join (tokens : List Token) : String :=
  String.ofList (tokens.flatMap Token.chars)

end FormulaTable.Json
