import FormulaTable.Text.CaseTable
import FormulaTable.Text.Blank

/-!
# `FormulaTable.Text.Case`: capital and small letters

Case is changed character by character from the tables of `FormulaTable.Text.CaseTable`, with
one exception: a capital sigma that ends a word becomes the final small sigma when a whole text
is put in small letters.
-/

set_option autoImplicit false

namespace FormulaTable.Text

/-- Whether the run holds the character with this code point. -/
def CaseRun.covers (run : CaseRun) (code : Nat) : Bool :=
  run.first ≤ code && code ≤ run.last && (code - run.first) % run.step == 0

/-- The counterpart of a character: the sequence listed for it, else the shift of the run that
holds it, else the character itself. -/
def counterpart (sequences : List (Nat × List Nat)) (runs : List CaseRun) (c : Char) :
    List Char :=
  match sequences.lookup c.toNat with
  | some codes => codes.map Char.ofNat
  | none =>
    match runs.find? (·.covers c.toNat) with
    | some run => [Char.ofNat (c.toNat + run.shift).toNat]
    | none => [c]

/-- A character as a capital. -/
def capital (c : Char) : List Char :=
  if c.toNat < 0x80 then [c.toUpper] else counterpart capitalSequences capitalRuns c

/-- A character as a small letter, wherever it stands. -/
def small (c : Char) : List Char :=
  if c.toNat < 0x80 then [c.toLower] else counterpart smallSequences smallRuns c

/-- Whether one of the ranges holds the character. -/
def inRanges (ranges : List (Nat × Nat)) (c : Char) : Bool :=
  ranges.any fun (first, last) => first ≤ c.toNat && c.toNat ≤ last

/-- Whether the nearest character of `text` that is not passed over carries case. -/
def meetsCased (text : List Char) : Bool :=
  match text.find? fun c => !inRanges ignorableRanges c with
  | some c => inRanges casedRanges c
  | none => false

/-- The capital sigma. -/
def capitalSigma : Char := Char.ofNat 0x3A3

/-- The small sigma that ends a word. -/
def finalSigma : Char := Char.ofNat 0x3C2

/-- Puts `text` in small letters; `before` is what precedes it, nearest character first. A
capital sigma ends a word, and takes its final form, when a cased character comes before it and
none after it. -/
def lowerAfter (before : List Char) : List Char → List Char
  | [] => []
  | c :: rest =>
    let here :=
      if c = capitalSigma && meetsCased before && !meetsCased rest then [finalSigma] else small c
    here ++ lowerAfter (c :: before) rest

/-- A text in capitals. -/
def upper (text : List Char) : List Char :=
  text.flatMap capital

/-- A text in small letters. -/
def lower (text : List Char) : List Char :=
  lowerAfter [] text

/-- Puts each word with a capital in front and small letters after it. `inWord` says whether the
text continues a word. Characters are taken one by one, so a sigma never takes its final form. -/
def properAfter (inWord : Bool) : List Char → List Char
  | [] => []
  | c :: rest =>
    if isBlank c then c :: properAfter false rest
    else (if inWord then small c else capital c) ++ properAfter true rest

/-- A text with each of its words capitalised. -/
def proper (text : List Char) : List Char :=
  properAfter false text

end FormulaTable.Text
