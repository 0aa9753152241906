import FormulaTable.Calendar.Format
import Mathlib.Data.List.Pairwise
import Mathlib.Data.List.TakeWhile

/-!
# `FormulaTable.Proofs.Calendar.Formats`: the formats of dates exclude each other

Blanks, signs and short numbers make the formats overlap at first sight. Still no text can be read
by two of them (`readParts?_exclusive`), even if the numbers are those of no date. So the order in
which the formats are tried is of no consequence (`findSome?_dateByFormat?_perm`).

There are two reasons. Behind the first row of digits stands a `/` in one format and a `-` in all
others. The others read the same date (`readItems?`), and then differ in what is left of the text:
nothing, a `T`, or blanks and a digit; and in the last case in what is left behind the minute.
-/

set_option autoImplicit false

namespace FormulaTable

/-! ## Reading the beginning of a text -/

/-- Reads the beginning of a text by a format, and leaves the rest. -/
def readItems? (parts : DateParts) : List FormatItem → List Char → Option (DateParts × List Char)
  | [], text => some (parts, text)
  | .field f :: items, text => do
    let (value, rest) ← f.read? text
    readItems? (parts.put f value) items rest
  | .mark c :: items, text =>
    match text with
    | c' :: rest => if c = c' then readItems? parts items rest else none
    | [] => none
  | .gap :: items, text => readItems? parts items (Text.trimStart text)

/-- A text is read by a format of two parts in two parts. -/
theorem readParts?_append (parts : DateParts) (items more : List FormatItem) (text : List Char) :
    readParts? parts (items ++ more) text
      = (readItems? parts items text).bind fun read => readParts? read.1 more read.2 := by
  -- The first item either fails on both sides, or leaves the same rest for the others.
  induction items generalizing parts text with
  | nil => rfl
  | cons item items ih =>
      cases item with
      | field f =>
          rw [List.cons_append, readParts?, readItems?]
          cases f.read? text with
          | none => rfl
          | some found => exact ih _ _
      | mark c =>
          cases text with
          | nil => rfl
          | cons c' rest =>
              rw [List.cons_append, readParts?, readItems?]
              split
              · exact ih _ _
              · rfl
      | gap => exact ih _ _

/-! ## What stands where a number is read -/

/-- Of the digits that a text begins with, some are read. -/
theorem exists_of_readDigits? {width : Option Nat} {text rest : List Char} {n : Nat}
    (h : readDigits? width text = some (n, rest)) :
    ∃ k, 0 < k ∧ k ≤ (text.takeWhile Char.isDigit).length ∧ rest = text.drop k := by
  -- With a width or without, the digits taken are among those that the text begins with.
  have htaken : ∃ digits : List Char, digits.length ≤ (text.takeWhile Char.isDigit).length ∧
      (if digits.isEmpty then none else some (decimalValue digits, text.drop digits.length))
        = some (n, rest) := by
    cases width with
    | none => exact ⟨text.takeWhile Char.isDigit, Nat.le_refl _, h⟩
    | some most => exact ⟨(text.takeWhile Char.isDigit).take most, List.length_take_le' _ _, h⟩
  obtain ⟨digits, hlength, hread⟩ := htaken
  split at hread
  · cases hread
  · next hne =>
      obtain ⟨-, rfl⟩ := Prod.mk.inj (Option.some.inj hread)
      have hpos : 0 < digits.length := by
        rw [List.length_pos_iff]
        exact fun hnil => hne (List.isEmpty_iff.mpr hnil)
      exact ⟨digits.length, hpos, hlength, rfl⟩

/-- Digits that are read up to a character that is none are all the digits there are. -/
theorem dropWhile_of_readDigits? {width : Option Nat} {text rest : List Char} {n : Nat} {c : Char}
    (h : readDigits? width text = some (n, c :: rest)) (hc : c.isDigit = false) :
    text.dropWhile Char.isDigit = c :: rest := by
  obtain ⟨k, -, hk, hrest⟩ := exists_of_readDigits? h
  have hsplit : c :: rest
      = (text.takeWhile Char.isDigit).drop k ++ text.dropWhile Char.isDigit := by
    rw [hrest, ← List.drop_append_of_le_length hk, List.takeWhile_append_dropWhile]
  -- A digit that were left would come first.
  cases hleft : (text.takeWhile Char.isDigit).drop k with
  | nil => rw [hsplit, hleft, List.nil_append]
  | cons d more =>
      rw [hleft, List.cons_append, List.cons.injEq] at hsplit
      have hd : d ∈ text.takeWhile Char.isDigit :=
        List.mem_of_mem_drop (by rw [hleft]; exact List.mem_cons_self)
      rw [hsplit.1, List.mem_takeWhile_imp hd] at hc
      cases hc

/-- All fields but the year are read in one way. -/
theorem DateField.read?_of_ne_year {f : DateField} (hf : f ≠ .year) (text : List Char) :
    f.read? text
      = (readDigits? (some 2) (Text.trimStart text)).map fun (n, rest) => ((n : Int), rest) := by
  cases f with
  | year => exact absurd rfl hf
  | _ => rfl

/-- No number but a year begins with a character that is neither blank nor a digit. -/
theorem DateField.read?_cons_eq_none {f : DateField} (hf : f ≠ .year) {c : Char}
    (hblank : Text.isBlank c = false) (hdigit : c.isDigit = false) (rest : List Char) :
    f.read? (c :: rest) = none := by
  have htrim : Text.trimStart (c :: rest) = c :: rest :=
    List.dropWhile_cons_of_neg (by simp [hblank])
  rw [read?_of_ne_year hf, htrim, Option.map_eq_none_iff]
  cases hread : readDigits? (some 2) (c :: rest) with
  | none => rfl
  | some found =>
      obtain ⟨k, hpos, hk, -⟩ := exists_of_readDigits? hread
      rw [List.takeWhile_cons_of_neg (by simp [hdigit]), List.length_nil] at hk
      omega

/-! ## Dashes and slashes -/

/-- A number is read up to the character behind it. -/
theorem exists_of_readItems?_mark {f : DateField} {c : Char} {items : List FormatItem}
    {parts : DateParts}
    {text : List Char} {found : DateParts × List Char}
    (h : readItems? parts (.field f :: .mark c :: items) text = some found) :
    ∃ value rest, f.read? text = some (value, c :: rest) := by
  rw [readItems?] at h
  obtain ⟨⟨value, rest⟩, hread, hmark⟩ := Option.bind_eq_some_iff.mp h
  cases rest with
  | nil => cases hmark
  | cons c' rest =>
      have hsame : (if c = c' then readItems? (parts.put f value) items rest else none)
          = some found := hmark
      -- The mark was read, so it is the character that stands there.
      split at hsame
      · next hc =>
          rw [← hc] at hread
          exact ⟨value, rest, hread⟩
      · cases hsame

/-- Behind the digits that a month begins with stands what stands behind the month. -/
theorem dropWhile_of_read?_month {text rest : List Char} {value : Int}
    (h : DateField.month.read? text = some (value, '/' :: rest)) :
    (Text.trimStart text).dropWhile Char.isDigit = '/' :: rest := by
  rw [DateField.read?_of_ne_year (by decide)] at h
  obtain ⟨⟨n, left⟩, hread, hfound⟩ := Option.map_eq_some_iff.mp h
  obtain ⟨-, rfl⟩ := Prod.mk.inj hfound
  exact dropWhile_of_readDigits? hread rfl

/-- Behind the digits that a year begins with stands a dash, unless the year has a sign and begins
with none. -/
theorem dropWhile_of_read?_year {text rest : List Char} {value : Int}
    (h : DateField.year.read? text = some (value, '-' :: rest)) :
    ∃ c more, (Text.trimStart text).dropWhile Char.isDigit = c :: more ∧ c ≠ '/' := by
  unfold DateField.read? at h
  split at h
  · next digits _ htext =>
      rw [htext]
      exact ⟨'-', digits, rfl, by decide⟩
  · next digits _ htext =>
      rw [htext]
      exact ⟨'+', digits, rfl, by decide⟩
  · obtain ⟨⟨n, left⟩, hread, hfound⟩ := Option.map_eq_some_iff.mp h
    obtain ⟨-, rfl⟩ := Prod.mk.inj hfound
    exact ⟨'-', rest, dropWhile_of_readDigits? hread rfl, by decide⟩
  · next hyear _ _ => exact (hyear rfl).elim

/-- No text begins like a date with dashes and is a date with slashes. -/
theorem readItems?_or_readParts?_slash (text : List Char) :
    readItems? {} dateFormat text = none ∨ readParts? {} slashFormat text = none := by
  by_contra hboth
  rw [not_or, ← ne_eq, ← ne_eq, Option.ne_none_iff_exists', Option.ne_none_iff_exists'] at hboth
  obtain ⟨⟨found, hdash⟩, parts, hslash⟩ := hboth
  have hsplit := readParts?_append {} [.field .month, .mark '/'] (slashFormat.drop 2) text
  obtain ⟨begun, hbegun, -⟩ := Option.bind_eq_some_iff.mp (hsplit.symm.trans hslash)
  obtain ⟨_, rest, hmonth⟩ := exists_of_readItems?_mark hbegun
  obtain ⟨_, rest', hyear⟩ := exists_of_readItems?_mark hdash
  -- The same character would have to be a slash and none.
  obtain ⟨c, more, hdrop, hc⟩ := dropWhile_of_read?_year hyear
  rw [dropWhile_of_read?_month hmonth, List.cons.injEq] at hdrop
  exact hc hdrop.1.symm

/-! ## What is left behind a date -/

/-- The items of a time of day behind the minute. -/
def secondItems : List FormatItem :=
  [.mark ':', .field .second]

/-- Where nothing is left, there is no time of day. -/
theorem readParts?_clock_nil (parts : DateParts) (more : List FormatItem) :
    readParts? parts (.gap :: clockFormat ++ more) [] = none :=
  rfl

/-- Where a letter is left, a time of day does not follow at once. -/
theorem readParts?_clock_letter (parts : DateParts) (more : List FormatItem) (rest : List Char) :
    readParts? parts (.gap :: clockFormat ++ more) ('T' :: rest) = none := by
  have htrim : Text.trimStart ('T' :: rest) = 'T' :: rest := List.dropWhile_cons_of_neg (by decide)
  have hhour : DateField.hour.read? ('T' :: rest) = none :=
    DateField.read?_cons_eq_none (by decide) (by decide) rfl rest
  rw [List.cons_append, readParts?, htrim, clockFormat, List.cons_append, readParts?, hhour]
  rfl

/-- Behind the minute, either nothing is left or the second follows. -/
theorem readParts?_clock_or (parts : DateParts) (text : List Char) :
    readParts? parts (.gap :: clockFormat ++ secondItems) text = none ∨
      readParts? parts (.gap :: clockFormat) text = none := by
  have hshort := readParts?_append parts (.gap :: clockFormat) [] text
  rw [List.append_nil] at hshort
  rw [readParts?_append, hshort]
  cases readItems? parts (.gap :: clockFormat) text with
  | none => exact Or.inl rfl
  | some found =>
      obtain ⟨clock, rest⟩ := found
      cases rest with
      | nil => exact Or.inl rfl
      | cons c rest => exact Or.inr rfl

/-! ## All formats -/

/-- Of any two formats, one does not read the text. -/
theorem pairwise_dateFormats (text : List Char) :
    dateFormats.Pairwise fun f f' =>
      readParts? {} f text = none ∨ readParts? {} f' text = none := by
  -- All formats but the one with slashes begin with the same date.
  have hdate := readParts?_append {} dateFormat [] text
  rw [List.append_nil] at hdate
  have hmoment : readParts? {} momentFormat text = _ :=
    readParts?_append {} dateFormat (.gap :: clockFormat ++ secondItems) text
  have hmarked : readParts? {} markedMomentFormat text = _ :=
    readParts?_append {} dateFormat (.mark 'T' :: clockFormat ++ secondItems) text
  have hshort : readParts? {} shortMomentFormat text = _ :=
    readParts?_append {} dateFormat (.gap :: clockFormat) text
  have hslash := readItems?_or_readParts?_slash text
  cases hbegun : readItems? {} dateFormat text with
  | none =>
      rw [hbegun, Option.bind_none] at hdate hmoment hmarked hshort
      simp [dateFormats, hdate, hmoment, hmarked, hshort]
  | some begun =>
      obtain ⟨parts, rest⟩ := begun
      rw [hbegun, Option.bind_some] at hdate hmoment hmarked hshort
      rw [hbegun] at hslash
      have hnoSlash := hslash.resolve_left (by simp)
      -- What is left behind the date decides between the others.
      cases rest with
      | nil =>
          have hmarked' : readParts? {} markedMomentFormat text = none := hmarked
          rw [readParts?_clock_nil] at hmoment
          have hshort' : readParts? {} shortMomentFormat text = none := hshort
          simp [dateFormats, hnoSlash, hmoment, hmarked', hshort']
      | cons c rest =>
          have hdate' : readParts? {} dateFormat text = none := hdate
          by_cases hc : c = 'T'
          · have hclock := readParts?_clock_letter parts [] rest
            rw [List.append_nil] at hclock
            rw [hc, readParts?_clock_letter] at hmoment
            rw [hc, hclock] at hshort
            simp [dateFormats, hnoSlash, hdate', hmoment, hshort]
          · have hmarked' : readParts? {} markedMomentFormat text = none := by
              rw [hmarked]
              exact if_neg (Ne.symm hc)
            have hclock := readParts?_clock_or parts (c :: rest)
            rw [← hmoment, ← hshort] at hclock
            simp [dateFormats, hnoSlash, hdate', hmarked', hclock]

/-- A text is read by at most one of the formats. -/
theorem readParts?_exclusive {text : List Char} {f f' : List FormatItem} (hf : f ∈ dateFormats)
    (hf' : f' ∈ dateFormats) (h : (readParts? {} f text).isSome)
    (h' : (readParts? {} f' text).isSome) :
    f = f' := by
  by_contra hne
  have hsymm : Std.Symm fun f f' => readParts? {} f text = none ∨ readParts? {} f' text = none :=
    ⟨fun _ _ hnone => hnone.symm⟩
  -- The formats are compared in pairs once; of each pair one reader fails.
  have hone := (pairwise_dateFormats text).forall hf hf' hne
  rcases hone with hnone | hnone
  · rw [hnone] at h
    cases h
  · rw [hnone] at h'
    cases h'

/-- Which of some formats are tried first makes no difference to the date. -/
theorem findSome?_dateByFormat?_eq_some_iff {formats : List (List FormatItem)}
    (hformats : ∀ f ∈ formats, f ∈ dateFormats) {text : List Char} {d : Date} :
    formats.findSome? (dateByFormat? text) = some d ↔
      ∃ f ∈ formats, dateByFormat? text f = some d := by
  have hread : ∀ {f : List FormatItem} {e : Date}, dateByFormat? text f = some e →
      (readParts? {} f text).isSome := by
    intro f e he
    obtain ⟨parts, hparts, -⟩ := Option.bind_eq_some_iff.mp he
    rw [hparts, Option.isSome_some]
  constructor
  · exact List.exists_of_findSome?_eq_some
  · rintro ⟨f, hf, hd⟩
    cases hfound : formats.findSome? (dateByFormat? text) with
    | none =>
        rw [List.findSome?_eq_none_iff.mp hfound f hf] at hd
        cases hd
    | some e =>
        obtain ⟨f', hf', he⟩ := List.exists_of_findSome?_eq_some hfound
        -- The two formats both read the text, so they are one.
        obtain rfl := readParts?_exclusive (hformats f hf) (hformats f' hf') (hread hd) (hread he)
        rw [← he, hd]

/-- The order in which the formats are tried makes no difference. -/
theorem findSome?_dateByFormat?_perm {formats : List (List FormatItem)}
    (h : formats.Perm dateFormats) (text : List Char) :
    formats.findSome? (dateByFormat? text) = dateFormats.findSome? (dateByFormat? text) := by
  apply Option.ext
  intro d
  rw [findSome?_dateByFormat?_eq_some_iff fun f hf => h.mem_iff.mp hf,
    findSome?_dateByFormat?_eq_some_iff fun f hf => hf]
  exact exists_congr fun f => and_congr_left' h.mem_iff

end FormulaTable
