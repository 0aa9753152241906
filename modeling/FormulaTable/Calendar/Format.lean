import FormulaTable.Calendar.Date
import FormulaTable.Number.Digits
import FormulaTable.Text.Blank

/-!
# `FormulaTable.Calendar.Format`: dates as text

A date is read in any of five formats, each a list of numeric fields and of characters between
them. Reading is lenient inside a format: blanks may precede each number, a number may have fewer
digits than its field is wide, and where the format has a gap there may be any blanks or none.

`Date.text` and `Moment.text` write the first and the third of the formats, with every number at
its full width.
-/

set_option autoImplicit false

namespace FormulaTable

/-- The numbers that make up a date and a time of day. -/
inductive DateField where
  | year
  | month
  | day
  | hour
  | minute
  | second
  deriving DecidableEq, Repr

/-- One part of a format. -/
inductive FormatItem where
  | field (f : DateField)
  /-- A character that stands for itself. -/
  | mark (c : Char)
  /-- Blanks, or nothing. -/
  | gap
  deriving DecidableEq, Repr

/-- Year, month and day. -/
def dateFormat : List FormatItem :=
  [.field .year, .mark '-', .field .month, .mark '-', .field .day]

/-- Month, day and year. -/
def slashFormat : List FormatItem :=
  [.field .month, .mark '/', .field .day, .mark '/', .field .year]

/-- Hour and minute. -/
def clockFormat : List FormatItem :=
  [.field .hour, .mark ':', .field .minute]

/-- A date and a time of day with seconds. -/
def momentFormat : List FormatItem :=
  dateFormat ++ .gap :: clockFormat ++ [.mark ':', .field .second]

/-- A date and, behind a `T`, a time of day with seconds. -/
def markedMomentFormat : List FormatItem :=
  dateFormat ++ .mark 'T' :: clockFormat ++ [.mark ':', .field .second]

/-- A date and a time of day without seconds. -/
def shortMomentFormat : List FormatItem :=
  dateFormat ++ .gap :: clockFormat

/-- The formats in which a date is understood. -/
def dateFormats : List (List FormatItem) :=
  [dateFormat, slashFormat, momentFormat, markedMomentFormat, shortMomentFormat]

/-! ## Reading -/

/-- The numbers read so far; those a format leaves out are zero. -/
structure DateParts where
  year : Int := 0
  month : Nat := 0
  day : Nat := 0
  hour : Nat := 0
  minute : Nat := 0
  second : Nat := 0
  deriving DecidableEq, Repr

/-- The parts with one number put in. -/
def DateParts.put (parts : DateParts) (f : DateField) (value : Int) : DateParts :=
  match f with
  | .year => { parts with year := value }
  | .month => { parts with month := value.toNat }
  | .day => { parts with day := value.toNat }
  | .hour => { parts with hour := value.toNat }
  | .minute => { parts with minute := value.toNat }
  | .second => { parts with second := value.toNat }

/-- Reads a row of digits, one at least and as many as `width` allows. -/
def readDigits? (width : Option Nat) (text : List Char) : Option (Nat × List Char) :=
  let row := text.takeWhile Char.isDigit
  let digits := match width with
    | some most => row.take most
    | none => row
  if digits.isEmpty then none
  else some (decimalValue digits, text.drop digits.length)

/-- Reads the number of a field. A year has at most four digits, or any number of them behind a
sign; the other fields have at most two. -/
def DateField.read? (f : DateField) (text : List Char) : Option (Int × List Char) :=
  match f, Text.trimStart text with
  | .year, '-' :: digits => (readDigits? none digits).map fun (n, rest) => (-n, rest)
  | .year, '+' :: digits => (readDigits? none digits).map fun (n, rest) => (n, rest)
  | .year, digits => (readDigits? (some 4) digits).map fun (n, rest) => (n, rest)
  | _, digits => (readDigits? (some 2) digits).map fun (n, rest) => (n, rest)

/-- Reads a text by a format; nothing may be left over. -/
def readParts? (parts : DateParts) : List FormatItem → List Char → Option DateParts
  | [], text => if text.isEmpty then some parts else none
  | .field f :: items, text => do
    let (value, rest) ← f.read? text
    readParts? (parts.put f value) items rest
  | .mark c :: items, text =>
    match text with
    | c' :: rest => if c = c' then readParts? parts items rest else none
    | [] => none
  | .gap :: items, text => readParts? parts items (Text.trimStart text)

/-- The date that the numbers name, if they name one. The second may be a leap second. -/
def DateParts.date? (parts : DateParts) : Option Date :=
  if parts.hour < 24 && parts.minute < 60 && parts.second ≤ 60 then
    Date.ofParts? parts.year parts.month parts.day
  else none

/-- The date that a text spells in one format. -/
def dateByFormat? (text : List Char) (format : List FormatItem) : Option Date := do
  (← readParts? {} format text).date?

/-- The date that a text spells in the first format that fits, with blanks around it. -/
def Date.ofChars? (text : List Char) : Option Date :=
  dateFormats.findSome? (dateByFormat? (Text.trim text))

/-! ## Writing -/

/-- A number with zeros in front up to a given width. -/
def padded (width n : Nat) : List Char :=
  let digits := Nat.toDigits 10 n
  List.replicate (width - digits.length) '0' ++ digits

/-- A year: four digits, and a sign if it is below zero or has more than four. -/
def yearChars (year : Int) : List Char :=
  if year < 0 then '-' :: padded 4 year.natAbs
  else if 9999 < year then '+' :: padded 4 year.natAbs
  else padded 4 year.natAbs

/-- Year, month and day. -/
def Date.chars (d : Date) : List Char :=
  yearChars d.year ++ '-' :: padded 2 d.month ++ '-' :: padded 2 d.day

/-- Year, month, day and time of day. -/
def Moment.chars (m : Moment) : List Char :=
  m.date.chars ++ ' ' :: padded 2 m.hour ++ ':' :: padded 2 m.minute ++ ':' :: padded 2 m.second

/-- The text of a date. -/
def Date.text (d : Date) : String :=
  String.ofList d.chars

/-- The text of a moment. -/
def Moment.text (m : Moment) : String :=
  String.ofList m.chars

end FormulaTable
