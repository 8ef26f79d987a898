/-! # The Gregorian calendar

Days are numbered from the first of January 1970. Years are counted from March, so that a leap day
is the last day of its year and the month lengths follow one formula; four hundred years make one
cycle of 146097 days.
-/

namespace SessionTokens.Time

/-- A day of the Gregorian calendar, continued to all years. -/
structure Date where
  year : Int
  month : Nat
  day : Nat
  deriving DecidableEq, Repr

namespace Date

/-- Whether a year has a leap day. -/
def isLeapYear (year : Int) : Bool :=
  year % 4 == 0 && (year % 100 != 0 || year % 400 == 0)

/-- The number of days of a month. -/
def daysInMonth (year : Int) (month : Nat) : Nat :=
  if month = 2 then (if isLeapYear year then 29 else 28)
  else if month = 4 ∨ month = 6 ∨ month = 9 ∨ month = 11 then 30
  else 31

/-- Whether the month and the day exist. -/
def isValid (date : Date) : Bool :=
  decide (1 ≤ date.month) && decide (date.month ≤ 12) && decide (1 ≤ date.day) &&
    decide (date.day ≤ daysInMonth date.year date.month)

/-- The number of a day, counted from the first of January 1970. -/
def toDays (date : Date) : Int :=
  let year := if date.month ≤ 2 then date.year - 1 else date.year
  let cycle := year / 400
  let yearOfCycle := year % 400
  let month : Int := ((date.month : Int) + 9) % 12
  let dayOfYear := (153 * month + 2) / 5 + date.day - 1
  cycle * 146097 + (yearOfCycle * 365 + yearOfCycle / 4 - yearOfCycle / 100 + dayOfYear) - 719468

/-- The day of a number. -/
def ofDays (days : Int) : Date :=
  let shifted := days + 719468
  let cycle := shifted / 146097
  let dayOfCycle := shifted % 146097
  let yearOfCycle :=
    (dayOfCycle - dayOfCycle / 1460 + dayOfCycle / 36524 - dayOfCycle / 146096) / 365
  let dayOfYear := dayOfCycle - (365 * yearOfCycle + yearOfCycle / 4 - yearOfCycle / 100)
  let monthFromMarch := (5 * dayOfYear + 2) / 153
  let day := dayOfYear - (153 * monthFromMarch + 2) / 5 + 1
  let month := if monthFromMarch < 10 then monthFromMarch + 3 else monthFromMarch - 9
  let year := yearOfCycle + cycle * 400
  ⟨if month ≤ 2 then year + 1 else year, month.toNat, day.toNat⟩

example : ofDays 0 = ⟨1970, 1, 1⟩ ∧ toDays ⟨1970, 1, 1⟩ = 0 := by decide
example : ofDays (-96465292) = ⟨-262143, 1, 1⟩ ∧ ofDays 95026236 = ⟨262142, 12, 31⟩ := by decide
example : ofDays 11016 = ⟨2000, 2, 29⟩ ∧ toDays ⟨2000, 2, 29⟩ = 11016 := by decide

end Date

end SessionTokens.Time
