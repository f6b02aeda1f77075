/-!
# Calendar dates

A date is a day of the Gregorian calendar, extended to all years of a wide range and counted from
the first day of 1970. Years are counted through zero.
-/

namespace LossCascade

/-- The number of the first day of the range, the first of January of the year -262143. -/
abbrev Date.firstDay : Int := -96465292

/-- The number of the last day of the range, the last of December of the year 262142. -/
abbrev Date.lastDay : Int := 95026236

/-- A day of the calendar by its number. -/
structure Date where
  day : Int
  lower : Date.firstDay ≤ day
  upper : day ≤ Date.lastDay
deriving DecidableEq

namespace Date

/-- The date of a day number in range. -/
def ofDay? (n : Int) : Option Date :=
  if h : firstDay ≤ n ∧ n ≤ lastDay then some ⟨n, h.1, h.2⟩ else none

/-- The date so many days later, if it is in range. -/
def addDays? (date : Date) (n : Int) : Option Date :=
  ofDay? (date.day + n)

/-! ## Year, month and day

The count of days is done in cycles of 400 years that begin in March, so that a leap day ends a
year. -/

/-- Whether the year has a leap day. -/
def isLeapYear (year : Int) : Bool :=
  year % 4 == 0 && (year % 100 != 0 || year % 400 == 0)

/-- The number of days of a month. -/
def monthLength (year : Int) (month : Nat) : Nat :=
  if month == 2 then (if isLeapYear year then 29 else 28)
  else if month == 4 || month == 6 || month == 9 || month == 11 then 30
  else 31

/-- The number of a day given by year, month and day of the month. -/
def dayNumber (year : Int) (month day : Nat) : Int :=
  let year := if month ≤ 2 then year - 1 else year
  let cycle := year / 400
  let yearOfCycle := year - cycle * 400
  let dayOfYear : Int := (153 * ((month + 9) % 12) + 2) / 5 + day - 1
  let dayOfCycle := yearOfCycle * 365 + yearOfCycle / 4 - yearOfCycle / 100 + dayOfYear
  cycle * 146097 + dayOfCycle - 719468

/-- The date of a year, month and day, if there is such a day and it is in range. -/
def ofCivil? (year : Int) (month day : Nat) : Option Date :=
  if 1 ≤ month && month ≤ 12 && 1 ≤ day && day ≤ monthLength year month then
    ofDay? (dayNumber year month day)
  else none

/-- The year, month and day of a date. -/
def civil (date : Date) : Int × Nat × Nat :=
  let shifted := date.day + 719468
  let cycle := shifted / 146097
  let dayOfCycle := shifted - cycle * 146097
  let yearOfCycle :=
    (dayOfCycle - dayOfCycle / 1460 + dayOfCycle / 36524 - dayOfCycle / 146096) / 365
  let dayOfYear := dayOfCycle - (365 * yearOfCycle + yearOfCycle / 4 - yearOfCycle / 100)
  let monthFromMarch := (5 * dayOfYear + 2) / 153
  let day := dayOfYear - (153 * monthFromMarch + 2) / 5 + 1
  let month := if monthFromMarch < 10 then monthFromMarch + 3 else monthFromMarch - 9
  let year := yearOfCycle + cycle * 400
  (if month ≤ 2 then year + 1 else year, month.toNat, day.toNat)

end Date

end LossCascade
