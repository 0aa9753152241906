import FormulaTable.Meaning.Arithmetic

/-!
# `FormulaTable.Meaning.Statistics`: counts, medians and variances

Functions that describe a list of numbers or of texts, and those that look for texts in a list.
Texts are compared exactly; there are no patterns.
-/

set_option autoImplicit false

namespace FormulaTable.Meaning

/-- How many texts are not empty. -/
def filled (texts : List String) : Nat :=
  texts.countP fun s => !s.isEmpty

/-- The number in the middle of the order, or the mean of the two there; zero if there are no
numbers. -/
def medianOf (xs : List Float) : Float :=
  let sorted := xs.mergeSort fun a b => orderKey a ≤ orderKey b
  let half := sorted.length / 2
  if sorted.isEmpty then 0
  else if sorted.length % 2 = 0 then (sorted.getD (half - 1) 0 + sorted.getD half 0) / 2
  else sorted.getD half 0

/-- The variance of a sample; zero for fewer than two numbers. -/
def sampleVariance (xs : List Float) : Float :=
  if xs.length < 2 then 0
  else
    let average := mean xs
    let squares := xs.map fun x => (x - average) * (x - average)
    total squares / Float.ofNat (xs.length - 1)

/-- The elements of a list without those that occurred before. -/
def distinct (texts : List String) : List String :=
  texts.foldl (fun seen s => if seen.contains s then seen else seen ++ [s]) []

/-- The distinct texts that are not empty, in the order in which they first occur. -/
def distinctTexts : Query Value := do
  let texts ← Query.allTexts
  return .text (", ".intercalate (distinct (texts.filter fun s => !s.isEmpty)))

/-- How many texts of the first argument equal the text of the second. -/
def countMatches : Query Value := do
  let texts ← Query.textsAt 0
  let wanted ← Query.text 1
  return .number (Float.ofNat (texts.countP (· == wanted)))

/-- Adds up the numbers of one list whose partners in the other equal a text; a text that spells
no number adds zero. -/
def sumOfMatches (wanted : String) (texts addends : List String) : Float :=
  let matching := (texts.zip addends).filter fun (s, _) => s == wanted
  total (matching.map fun (_, addend) => (parseNumber addend.toList).getD 0)

/-- Adds up the numbers of the third argument whose partners in the first equal the text of the
second. Partners are found by counting along both lists. Without a third argument the first stands
in for it. -/
def sumMatches (count : Nat) : Query Value := do
  let texts ← Query.textsAt 0
  let wanted ← Query.text 1
  if 2 < count then
    let addends ← Query.textsAt 2
    return .number (sumOfMatches wanted texts addends)
  else return .number (sumOfMatches wanted texts texts)

end FormulaTable.Meaning
