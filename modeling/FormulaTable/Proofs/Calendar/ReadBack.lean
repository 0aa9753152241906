import FormulaTable.Evaluation.Context
import FormulaTable.Proofs.Calendar.Formats
import FormulaTable.Proofs.Formula.Form
import FormulaTable.Proofs.Number.DigitRow
import FormulaTable.Proofs.Text.Trim

/-!
# `FormulaTable.Proofs.Calendar.ReadBack`: dates are read back as they are written

`TODAY` and `NOW` write every number at its full width, and a year beyond four digits with a sign.
So it is known where each number ends, whatever stands behind it: `DateField.read?_padded`, and
`DateField.read?_yearChars` for a year in front of a character that is no digit. Number by number, a
date is read from the beginning of its text (`readItems?_chars`).

`dates_read_back` has this for the texts of both functions, with blanks around them. No other format
gets in between, since a text is read by one format at most.
-/

set_option autoImplicit false

namespace FormulaTable

/-! ## Padded numbers -/

section
variable {width n : ℕ}

/-- A padded number is made of digits. -/
theorem isDigit_of_mem_padded (width n : ℕ) : ∀ c ∈ padded width n, c.isDigit := by
  rw [padded, List.forall_mem_append]
  exact ⟨isDigit_of_mem_zeros _, isDigit_of_mem_toDigits n⟩

/-- A padded number has a digit at least. -/
theorem padded_ne_nil (width n : ℕ) : padded width n ≠ [] :=
  List.append_ne_nil_of_right_ne_nil _ Nat.toDigits_ne_nil

/-- The zeros in front do not count. -/
theorem decimalValue_padded (width n : ℕ) : decimalValue (padded width n) = n := by
  rw [decimalValue_eq_placeValue, padded, placeValue_append, placeValue_zeros,
    Nat.zero_mul, Nat.zero_add, placeValue_toDigits]

/-- A number that is not too long has the full width. -/
theorem length_padded (hwidth : 0 < width) (h : n < 10 ^ width) :
    (padded width n).length = width := by
  have hle := Nat.toDigits_length 10 n width hwidth h
  rw [padded, List.length_append, List.length_replicate]
  omega

end

/-! ## Reading what is written -/

/-- A row of digits is read up to the width of the field. -/
theorem readDigits?_width {row : List Char} (hrow : row ≠ []) (hdigits : ∀ c ∈ row, c.isDigit)
    (rest : List Char) :
    readDigits? (some row.length) (row ++ rest) = some (decimalValue row, rest) := by
  have htake : ((row ++ rest).takeWhile Char.isDigit).take row.length = row := by
    rw [List.takeWhile_append_of_pos hdigits, List.take_left]
  have hread : readDigits? (some row.length) (row ++ rest)
      = if (((row ++ rest).takeWhile Char.isDigit).take row.length).isEmpty then none
        else some (decimalValue (((row ++ rest).takeWhile Char.isDigit).take row.length),
          (row ++ rest).drop (((row ++ rest).takeWhile Char.isDigit).take row.length).length) := rfl
  rw [hread, htake, if_neg (by simpa using hrow), List.drop_left]

/-- Without a width, a row of digits is read up to a character that is none. -/
theorem readDigits?_all {row : List Char} (hrow : row ≠ []) (hdigits : ∀ c ∈ row, c.isDigit)
    {c : Char} (hc : c.isDigit = false) (rest : List Char) :
    readDigits? none (row ++ c :: rest) = some (decimalValue row, c :: rest) := by
  have hread : readDigits? none (row ++ c :: rest)
      = if ((row ++ c :: rest).takeWhile Char.isDigit).isEmpty then none
        else some (decimalValue ((row ++ c :: rest).takeWhile Char.isDigit),
          (row ++ c :: rest).drop ((row ++ c :: rest).takeWhile Char.isDigit).length) := rfl
  rw [hread, (Text.cut_append hdigits hc rest).1, if_neg (by simpa using hrow), List.drop_left]

/-- There are no blanks in front of a digit. -/
theorem trimStart_of_isDigit {row : List Char} (hrow : row ≠ []) (hdigits : ∀ c ∈ row, c.isDigit)
    (rest : List Char) : Text.trimStart (row ++ rest) = row ++ rest := by
  obtain ⟨c, more, rfl⟩ := List.exists_cons_of_ne_nil hrow
  have hblank : Text.isBlank c = false :=
    not_isBlank_of_isAlphanum (isAlphanum_of_isDigit (hdigits c List.mem_cons_self))
  exact List.dropWhile_cons_of_neg (by simp [hblank])

/-- A number of two digits is read, whatever follows. -/
theorem DateField.read?_padded {f : DateField} (hf : f ≠ .year) {n : ℕ} (hn : n < 100)
    (rest : List Char) :
    f.read? (padded 2 n ++ rest) = some ((n : Int), rest) := by
  have hread := readDigits?_width (padded_ne_nil 2 n) (isDigit_of_mem_padded 2 n) rest
  rw [length_padded (by decide) hn, decimalValue_padded] at hread
  rw [read?_of_ne_year hf, trimStart_of_isDigit (padded_ne_nil 2 n) (isDigit_of_mem_padded 2 n),
    hread]
  rfl

/-- Behind a sign, a year has any number of digits. -/
theorem DateField.read?_sign (digits : List Char) :
    DateField.year.read? ('-' :: digits)
        = (readDigits? none digits).map (fun (n, rest) => (-(n : Int), rest)) ∧
      DateField.year.read? ('+' :: digits)
        = (readDigits? none digits).map fun (n, rest) => ((n : Int), rest) :=
  ⟨rfl, rfl⟩

/-- A year of four digits is read, whatever follows. -/
theorem DateField.read?_year_padded {n : ℕ} (hn : n < 10000) (rest : List Char) :
    DateField.year.read? (padded 4 n ++ rest) = some ((n : Int), rest) := by
  have hread := readDigits?_width (padded_ne_nil 4 n) (isDigit_of_mem_padded 4 n) rest
  rw [length_padded (by decide) hn, decimalValue_padded] at hread
  have htrim := trimStart_of_isDigit (padded_ne_nil 4 n) (isDigit_of_mem_padded 4 n) rest
  -- The first character is a digit, and so no sign.
  have hsign : ∀ sign more, sign.isDigit = false →
      Text.trimStart (padded 4 n ++ rest) ≠ sign :: more := by
    intro sign more hsign heq
    obtain ⟨d, others, hd⟩ := List.exists_cons_of_ne_nil (padded_ne_nil 4 n)
    rw [htrim, hd, List.cons_append, List.cons.injEq] at heq
    have hdigit : d.isDigit := isDigit_of_mem_padded 4 n d (by rw [hd]; exact List.mem_cons_self)
    rw [heq.1, hsign] at hdigit
    cases hdigit
  unfold DateField.read?
  split
  · next digits _ htext => exact absurd htext (hsign _ _ rfl)
  · next digits _ htext => exact absurd htext (hsign _ _ rfl)
  · rw [htrim, hread]
    rfl
  · next hyear _ _ => exact (hyear rfl).elim

/-- A year is read up to a character that is no digit. -/
theorem DateField.read?_yearChars (year : Int) {c : Char} (hc : c.isDigit = false)
    (rest : List Char) :
    DateField.year.read? (yearChars year ++ c :: rest) = some (year, c :: rest) := by
  have hread := readDigits?_all (padded_ne_nil 4 year.natAbs)
    (isDigit_of_mem_padded 4 year.natAbs) hc rest
  rw [decimalValue_padded] at hread
  rw [yearChars]
  -- A year is written with a minus, with a plus or with neither.
  split
  · next hnegative =>
      have hyear : -(year.natAbs : Int) = year := by omega
      rw [List.cons_append, (read?_sign _).1, hread]
      show some (-(year.natAbs : Int), c :: rest) = _
      rw [hyear]
  · next hnonnegative =>
      have hyear : (year.natAbs : Int) = year := by omega
      split
      · rw [List.cons_append, (read?_sign _).2, hread]
        show some ((year.natAbs : Int), c :: rest) = _
        rw [hyear]
      · rw [read?_year_padded (by omega), hyear]

/-! ## Dates and times of day -/

/-- There are twelve months, and none has more than thirty-one days. -/
theorem Date.month_lt_and_day_lt (d : Date) : d.month < 13 ∧ d.day < 32 := by
  obtain ⟨hfirst, hlast⟩ := d.day_mem
  have hleap : (if isLeapYear d.year then 29 else 28) ≤ 29 := by split <;> decide
  unfold daysInMonth at hlast
  split at hlast <;> omega

/-- A date is found by its own numbers. -/
theorem Date.ofParts?_self (d : Date) : Date.ofParts? d.year d.month d.day = some d :=
  dif_pos ⟨d.year_mem, d.day_mem⟩

/-- A date is read from the beginning of its text, whatever follows. -/
theorem readItems?_chars (d : Date) (rest : List Char) :
    readItems? {} dateFormat (d.chars ++ rest)
      = some ({ year := d.year, month := d.month, day := d.day }, rest) := by
  obtain ⟨hmonth_lt, hday_lt⟩ := d.month_lt_and_day_lt
  have htext : d.chars ++ rest
      = yearChars d.year ++ '-' :: (padded 2 d.month ++ '-' :: (padded 2 d.day ++ rest)) := by
    simp [Date.chars]
  have hyear := DateField.read?_yearChars d.year (c := '-') rfl
    (padded 2 d.month ++ '-' :: (padded 2 d.day ++ rest))
  have hmonth := DateField.read?_padded (f := .month) (by decide) (by omega : d.month < 100)
    ('-' :: (padded 2 d.day ++ rest))
  have hday := DateField.read?_padded (f := .day) (by decide) (by omega : d.day < 100) rest
  rw [htext]
  simp [dateFormat, readItems?, DateParts.put, hyear, hmonth, hday]

/-- Hour, minute and second. -/
def clockChars (hour minute second : ℕ) : List Char :=
  padded 2 hour ++ ':' :: padded 2 minute ++ ':' :: padded 2 second

/-- A time of day is read behind a blank. -/
theorem readParts?_clockChars (parts : DateParts) {hour minute second : ℕ} (hhour : hour < 24)
    (hminute : minute < 60) (hsecond : second ≤ 60) :
    readParts? parts (.gap :: clockFormat ++ secondItems) (' ' :: clockChars hour minute second)
      = some { parts with hour, minute, second } := by
  have htext : clockChars hour minute second
      = padded 2 hour ++ ':' :: (padded 2 minute ++ ':' :: (padded 2 second ++ [])) := by
    simp [clockChars]
  have hgap : Text.trimStart (' ' :: clockChars hour minute second)
      = clockChars hour minute second := by
    have hblank : Text.trimStart (' ' :: clockChars hour minute second)
        = Text.trimStart (clockChars hour minute second) := rfl
    rw [hblank, htext, trimStart_of_isDigit (padded_ne_nil 2 hour) (isDigit_of_mem_padded 2 hour)]
  -- Each number has two digits, so it ends where it ends whatever follows.
  have hreadHour := DateField.read?_padded (f := .hour) (by decide) (by omega : hour < 100)
    (':' :: (padded 2 minute ++ ':' :: (padded 2 second ++ [])))
  have hreadMinute := DateField.read?_padded (f := .minute) (by decide) (by omega : minute < 100)
    (':' :: (padded 2 second ++ []))
  have hreadSecond := DateField.read?_padded (f := .second) (by decide) (by omega : second < 100) []
  rw [List.cons_append, readParts?, hgap, htext]
  simp only [clockFormat, secondItems, List.cons_append, List.nil_append, readParts?, DateParts.put,
    hreadHour, hreadMinute, hreadSecond, if_true, Option.bind_eq_bind, Option.bind_some,
    Int.toNat_natCast, List.isEmpty_nil]

/-! ## The texts of the two functions -/

/-- A padded number has no blanks. -/
theorem not_isBlank_of_mem_padded {width n : ℕ} : ∀ c ∈ padded width n, Text.isBlank c = false :=
  fun c hc => not_isBlank_of_isAlphanum (isAlphanum_of_isDigit (isDigit_of_mem_padded width n c hc))

/-- A year has a character at least. -/
theorem yearChars_ne_nil (year : Int) : yearChars year ≠ [] := by
  unfold yearChars
  split_ifs
  · exact List.cons_ne_nil _ _
  · exact List.cons_ne_nil _ _
  · exact padded_ne_nil _ _

/-- A year has no blanks. -/
theorem not_isBlank_of_mem_yearChars {year : Int} :
    ∀ c ∈ yearChars year, Text.isBlank c = false := by
  unfold yearChars
  split_ifs
  · exact List.forall_mem_cons.mpr ⟨by decide, not_isBlank_of_mem_padded⟩
  · exact List.forall_mem_cons.mpr ⟨by decide, not_isBlank_of_mem_padded⟩
  · exact not_isBlank_of_mem_padded

/-- A text that begins with a year and ends with a padded number is not trimmed. -/
theorem trim_yearChars_append (year : Int) (middle : List Char) (n : ℕ) :
    Text.trim (yearChars year ++ middle ++ padded 2 n) = yearChars year ++ middle ++ padded 2 n :=
  Text.trim_eq_self_of_ends middle (yearChars_ne_nil year) (padded_ne_nil 2 n)
    not_isBlank_of_mem_yearChars not_isBlank_of_mem_padded

/-- A text that a format reads is read whatever blanks are around it. -/
theorem Date.ofChars?_padded {text : List Char} {format : List FormatItem} {d : Date}
    (hformat : format ∈ dateFormats) (htrim : Text.trim text = text)
    (h : dateByFormat? text format = some d)
    {before after : List Char} (hbefore : Text.AllBlank before) (hafter : Text.AllBlank after) :
    Date.ofChars? (before ++ text ++ after) = some d := by
  rw [Date.ofChars?, Text.trim_padded hbefore hafter, htrim]
  exact (findSome?_dateByFormat?_eq_some_iff fun f hf => hf).mpr ⟨format, hformat, h⟩

section
variable {before after : List Char} (hbefore : Text.AllBlank before) (hafter : Text.AllBlank after)
  (d : Date)

include hbefore hafter

/-- A date is read back. -/
theorem Date.ofChars?_chars : Date.ofChars? (before ++ d.chars ++ after) = some d := by
  have hread : dateByFormat? d.chars dateFormat = some d := by
    have hsplit := readParts?_append {} dateFormat [] d.chars
    have hitems := readItems?_chars d []
    rw [List.append_nil] at hsplit hitems
    rw [dateByFormat?, hsplit, hitems]
    exact d.ofParts?_self
  have htrim : Text.trim d.chars = d.chars := by
    have hends := trim_yearChars_append d.year ('-' :: padded 2 d.month ++ ['-']) d.day
    simpa [Date.chars] using hends
  exact ofChars?_padded (by decide) htrim hread hbefore hafter

/-- A date with a time of day behind it is read back, be the second a leap second. -/
theorem Date.ofChars?_chars_clockChars {hour minute second : ℕ} (hhour : hour < 24)
    (hminute : minute < 60) (hsecond : second ≤ 60) :
    Date.ofChars? (before ++ (d.chars ++ ' ' :: clockChars hour minute second) ++ after)
      = some d := by
  have hread : dateByFormat? (d.chars ++ ' ' :: clockChars hour minute second) momentFormat
      = some d := by
    have hsplit : readParts? {} momentFormat (d.chars ++ ' ' :: clockChars hour minute second)
        = _ :=
      readParts?_append {} dateFormat (.gap :: clockFormat ++ secondItems) _
    -- The clock is checked with sixty seconds allowed, for a leap second.
    have hvalid : (decide (hour < 24) && decide (minute < 60) && decide (second ≤ 60)) = true := by
      simp [hhour, hminute, hsecond]
    rw [dateByFormat?, hsplit, readItems?_chars, Option.bind_some,
      readParts?_clockChars _ hhour hminute hsecond]
    exact (if_pos hvalid).trans d.ofParts?_self
  -- The text begins with a year and ends with a padded number.
  have htrim : Text.trim (d.chars ++ ' ' :: clockChars hour minute second)
      = d.chars ++ ' ' :: clockChars hour minute second := by
    have hends := trim_yearChars_append d.year
      ('-' :: padded 2 d.month ++ '-' :: padded 2 d.day ++ ' ' :: padded 2 hour
        ++ ':' :: padded 2 minute ++ [':'])
      second
    simpa [Date.chars, clockChars] using hends
  exact ofChars?_padded (by decide) htrim hread hbefore hafter

end

/-- What `TODAY` and `NOW` write is read as the date it was written for, in every supported year and
at every time of day (also in a leap second), with blanks around it or none. No text is read by two
of the formats, even as numbers that name no date. So it makes no difference in which order the
formats are tried. -/
theorem dates_read_back :
    (∀ ctx : Context, ctx.call .today [] = .ok (.text ctx.ambient.now.date.text) ∧
      ctx.call .now [] = .ok (.text ctx.ambient.now.text)) ∧
    (∀ before after : List Char, Text.AllBlank before → Text.AllBlank after →
      (∀ d : Date, Date.ofChars? (before ++ d.text.toList ++ after) = some d) ∧
      (∀ m : Moment, Date.ofChars? (before ++ m.text.toList ++ after) = some m.date) ∧
      ∀ (d : Date) (hour minute : ℕ), hour < 24 → minute < 60 →
        Date.ofChars? (before ++ (d.chars ++ ' ' :: clockChars hour minute 60) ++ after) = some d) ∧
    dateFormats.Nodup ∧
    (∀ text, ∀ f ∈ dateFormats, ∀ f' ∈ dateFormats,
      (readParts? {} f text).isSome → (readParts? {} f' text).isSome → f = f') ∧
    ∀ formats : List (List FormatItem), formats.Perm dateFormats →
      ∀ text, formats.findSome? (dateByFormat? (Text.trim text)) = Date.ofChars? text := by
  refine ⟨fun ctx => ⟨rfl, rfl⟩, ?_, by decide, ?_, ?_⟩
  · intro before after hbefore hafter
    refine ⟨fun d => ?_, fun m => ?_, fun d hour minute hhour hminute => ?_⟩
    · rw [Date.text, String.toList_ofList]
      exact Date.ofChars?_chars hbefore hafter d
    · -- A moment is written as its date and its clock time, the time with its own second.
      have htext : m.text.toList = m.date.chars ++ ' ' :: clockChars m.hour m.minute m.second := by
        rw [Moment.text, String.toList_ofList]
        simp [Moment.chars, clockChars]
      rw [htext]
      exact Date.ofChars?_chars_clockChars hbefore hafter m.date m.hour_lt m.minute_lt
        (Nat.le_of_lt m.second_lt)
    · -- A leap second is the second 60, the last one the reader takes.
      exact Date.ofChars?_chars_clockChars hbefore hafter d hhour hminute (Nat.le_refl 60)
  · exact fun text f hf f' hf' => readParts?_exclusive hf hf'
  · exact fun formats hformats text => findSome?_dateByFormat?_perm hformats (Text.trim text)

/-- A year below zero, a year of five digits up to its leap second, and numbers that name no date:
no format but the one with slashes reads them. -/
theorem dates_read_back_across_years :
    let d : Date := ⟨-43, 3, 15, by decide, by decide⟩
    let m : Moment := ⟨⟨12000, 2, 29, by decide, by decide⟩, 23, 59, 59, by decide, by decide,
      by decide⟩
    let blanks := ['\t', ' ']
    let numbers := "13/45/2024".toList
    (d.text = "-0043-03-15" ∧ m.text = "+12000-02-29 23:59:59") ∧
      (Text.AllBlank blanks ∧ Date.ofChars? (blanks ++ d.text.toList ++ blanks) = some d ∧
        Date.ofChars? (blanks ++ m.text.toList ++ blanks) = some m.date ∧
        Date.ofChars? (blanks ++ (m.date.chars ++ ' ' :: clockChars 23 59 60) ++ blanks)
          = some m.date) ∧
      ((readParts? {} slashFormat numbers).isSome ∧
        ∀ f ∈ dateFormats, (readParts? {} f numbers).isSome → f = slashFormat) ∧
      (dateFormats.reverse.Perm dateFormats ∧
        dateFormats.reverse.findSome? (dateByFormat? (Text.trim numbers))
          = Date.ofChars? numbers) := by
  intro d m blanks numbers
  obtain ⟨-, hread, -, hone, horder⟩ := dates_read_back
  have hblanks : Text.AllBlank blanks := by decide
  obtain ⟨hdate, hmoment, hleap⟩ := hread blanks blanks hblanks hblanks
  -- There is no thirteenth month, but the format only looks at the digits.
  have hslash : (readParts? {} slashFormat numbers).isSome := by decide +kernel
  have hreverse : dateFormats.reverse.Perm dateFormats := List.reverse_perm dateFormats
  exact ⟨⟨by decide +kernel, by decide +kernel⟩,
    ⟨hblanks, hdate d, hmoment m, hleap m.date 23 59 (by decide) (by decide)⟩,
    ⟨hslash, fun f hf hf' => hone numbers f hf slashFormat (by decide) hf' hslash⟩,
    ⟨hreverse, horder dateFormats.reverse hreverse numbers⟩⟩

end FormulaTable
