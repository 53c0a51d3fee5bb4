import LinkTemplate.Text.Basic

/-!
# Dates of the Gregorian calendar

Dates of the Gregorian calendar, extended to all years, and their number of days since 1 January
1970. The conversion starts years in March, so that a leap day is the last day of its year :
`daysBeforeYear` counts the days in front of such a year, and `yearOfDay` finds the year that
holds a day by cutting it into spans of 400, 100, 4 and 1 years.
-/

namespace LinkTemplate

/-- A calendar date. -/
structure Date where
  year : Int
  /-- The month, January being 1. -/
  month : Nat
  /-- The day of the month, from 1. -/
  day : Nat
deriving DecidableEq, Repr

namespace Date

/-- Whether a year has a 29 February. -/
def isLeapYear (year : Int) : Bool :=
  year % 4 == 0 && (year % 100 != 0 || year % 400 == 0)

/-- The number of days of a month. -/
def daysInMonth (year : Int) (month : Nat) : Nat :=
  match month with
  | 2 => if isLeapYear year then 29 else 28
  | 4 | 6 | 9 | 11 => 30
  | _ => 31

/-- The date exists in the calendar. -/
def IsValid (d : Date) : Prop :=
  1 ≤ d.month ∧ d.month ≤ 12 ∧ 1 ≤ d.day ∧ d.day ≤ daysInMonth d.year d.month

instance (d : Date) : Decidable d.IsValid :=
  inferInstanceAs (Decidable (_ ∧ _))

/-! ## Day numbers -/

/-- The days from 1 March of the year 0 to 1 March of `year`. -/
def daysBeforeYear (year : Int) : Int :=
  365 * year + year / 4 - year / 100 + year / 400

/-- The days from 1 March to the first day of the `month`-th month behind March. -/
def daysBeforeMonth (month : Int) : Int :=
  (153 * month + 2) / 5

/-- The days from 1 March of the year 0 to 1 January 1970. -/
def epoch : Int := 719468

/-- The number of days since 1 January 1970, negative for earlier dates. -/
def toDays (d : Date) : Int :=
  let year := if d.month ≤ 2 then d.year - 1 else d.year
  let month : Int := if d.month ≤ 2 then d.month + 9 else d.month - 3
  daysBeforeYear year + daysBeforeMonth month + d.day - 1 - epoch

/-- The year, starting in March, that holds the day `day` days behind 1 March of the year 0. -/
def yearOfDay (day : Int) : Int :=
  let cycle := day / 146097
  let inCycle := day % 146097
  let century := min (inCycle / 36524) 3
  let inCentury := inCycle - 36524 * century
  let leap := inCentury / 1461
  let year := min (inCentury % 1461 / 365) 3
  400 * cycle + 100 * century + 4 * leap + year

/-- The date of a number of days since 1 January 1970. -/
def ofDays (days : Int) : Date :=
  let day := days + epoch
  let year := yearOfDay day
  let inYear := day - daysBeforeYear year
  let month := (5 * inYear + 2) / 153
  let inMonth := inYear - daysBeforeMonth month
  if month < 10 then ⟨year, (month + 3).toNat, (inMonth + 1).toNat⟩
  else ⟨year + 1, (month - 9).toNat, (inMonth + 1).toNat⟩

/-- The number of a month on the line of all months, January of the year 0 being 0. -/
def monthIndex (d : Date) : Int :=
  12 * d.year + (d.month - 1)

/-- The date a number of months later, on the same day or on the last day of a shorter month. -/
def addMonths (d : Date) (months : Int) : Date :=
  let index := d.monthIndex + months
  let year := index / 12
  let month := (index % 12 + 1).toNat
  ⟨year, month, min d.day (daysInMonth year month)⟩

/-- The number of the day in its year, from 1. -/
def dayOfYear (d : Date) : Nat :=
  (d.toDays - toDays ⟨d.year, 1, 1⟩ + 1).toNat

/-- The number of the day in its week, Sunday being 0. -/
def dayOfWeek (d : Date) : Nat :=
  ((d.toDays + 4) % 7).toNat

end Date

end LinkTemplate
