/-!
# `FormulaTable.Text.Blank`: blank characters

What separates words and may surround an address, a number or an argument. `trim` takes the
blanks off both ends of a text, `words` gives the stretches between them.
-/

set_option autoImplicit false

namespace FormulaTable.Text

/-- The blank characters: those of the Unicode property `White_Space`. A zero-width space and a
byte order mark do not have it. -/
def isBlank (c : Char) : Bool :=
  let code := c.toNat
  (0x09 ≤ code && code ≤ 0x0D) || code == 0x20 || code == 0x85 || code == 0xA0 ||
    code == 0x1680 || (0x2000 ≤ code && code ≤ 0x200A) || code == 0x2028 || code == 0x2029 ||
    code == 0x202F || code == 0x205F || code == 0x3000

/-- The text from its first character that is not blank. -/
def trimStart (text : List Char) : List Char :=
  text.dropWhile isBlank

/-- The text up to its last character that is not blank. -/
def trimEnd (text : List Char) : List Char :=
  (text.reverse.dropWhile isBlank).reverse

/-- The text without the blanks at either end. -/
def trim (text : List Char) : List Char :=
  trimEnd (trimStart text)

/-- Taking off blanks in front makes a text no longer. -/
theorem length_trimStart_le (text : List Char) : (trimStart text).length ≤ text.length :=
  (List.dropWhile_suffix isBlank).length_le

/-- Taking off blanks behind makes a text no longer. -/
theorem length_trimEnd_le (text : List Char) : (trimEnd text).length ≤ text.length := by
  have h := (List.dropWhile_suffix (l := text.reverse) isBlank).length_le
  simpa [trimEnd] using h

/-- Trimming never makes a text longer. -/
theorem length_trim_le (text : List Char) : (trim text).length ≤ text.length :=
  Nat.le_trans (length_trimEnd_le _) (length_trimStart_le _)

/-- Cuts a text at every blank; two blanks side by side leave an empty piece between them. -/
def cutAtBlanks : List Char → List (List Char)
  | [] => [[]]
  | c :: rest =>
    if isBlank c then [] :: cutAtBlanks rest
    else match cutAtBlanks rest with
      | [] => [[c]]
      | piece :: pieces => (c :: piece) :: pieces

/-- The words of a text: its longest stretches without a blank. -/
def words (text : List Char) : List (List Char) :=
  (cutAtBlanks text).filter fun piece => !piece.isEmpty

end FormulaTable.Text
