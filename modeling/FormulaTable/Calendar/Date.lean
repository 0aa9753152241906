/-!
# `FormulaTable.Calendar.Date`: days and times of day

Dates of the Gregorian calendar, extended to all supported years, and a time of day beside them.
Both types hold valid values only.
-/

set_option autoImplicit false

namespace FormulaTable

/-- Whether a year has a twenty-ninth of February. -/
def isLeapYear (year : Int) : Bool :=
  (year % 4 == 0 && year % 100 != 0) || year % 400 == 0

/-- The number of days of a month; none for a number that is no month. -/
def daysInMonth (year : Int) (month : Nat) : Nat :=
  match month with
  | 1 | 3 | 5 | 7 | 8 | 10 | 12 => 31
  | 4 | 6 | 9 | 11 => 30
  | 2 => if isLeapYear year then 29 else 28
  | _ => 0

/-- A day of the calendar. -/
structure Date where
  /-- The year; years before the first are zero and below. -/
  year : Int
  /-- The month, from 1. -/
  month : Nat
  /-- The day of the month, from 1. -/
  day : Nat
  year_mem : -262143 ≤ year ∧ year ≤ 262142
  day_mem : 1 ≤ day ∧ day ≤ daysInMonth year month
  deriving DecidableEq, Repr

/-- The date with the given parts, if there is one. -/
def Date.ofParts? (year : Int) (month day : Nat) : Option Date :=
  if h : (-262143 ≤ year ∧ year ≤ 262142) ∧ 1 ≤ day ∧ day ≤ daysInMonth year month then
    some { year, month, day, year_mem := h.1, day_mem := h.2 }
  else none

/-- A day and a time of day. -/
structure Moment where
  date : Date
  hour : Nat
  minute : Nat
  second : Nat
  hour_lt : hour < 24
  minute_lt : minute < 60
  second_lt : second < 60
  deriving DecidableEq, Repr

/-- The moment with the given parts, if there is one. -/
def Moment.ofParts? (year : Int) (month day hour minute second : Nat) : Option Moment := do
  let date ← Date.ofParts? year month day
  if h : hour < 24 ∧ minute < 60 ∧ second < 60 then
    return { date, hour, minute, second, hour_lt := h.1, minute_lt := h.2.1, second_lt := h.2.2 }
  else none

end FormulaTable
