/-!
# The calendar

Dates of the Gregorian calendar, extended backwards and forwards without end,
counted in days from the first of January 1970. The count starts each year in
March, so that the leap day comes last, and goes by cycles of four hundred
years, all of the same length.
-/

namespace Vivarium.Time

/-- A date of the calendar. -/
structure Date where
  year : Int
  month : Nat
  day : Nat
  deriving DecidableEq, Repr

/-- The days of four hundred years. -/
def cycleDays : Int := 146097

/-- The days from the first of March of year zero to the first of January 1970. -/
def epochDays : Int := 719468

/-- Whether a year has a leap day. -/
def isLeap (year : Int) : Bool :=
  year % 4 == 0 && (year % 100 != 0 || year % 400 == 0)

/-- The number of days of a month. -/
def monthDays (year : Int) (month : Nat) : Nat :=
  match month with
  | 4 | 6 | 9 | 11 => 30
  | 2 => if isLeap year then 29 else 28
  | _ => 31

namespace Date

def valid (date : Date) : Bool :=
  1 ≤ date.month && date.month ≤ 12 && 1 ≤ date.day && date.day ≤ monthDays date.year date.month

/-- The number of days since the first of January 1970. -/
def toDays (date : Date) : Int :=
  let year := if date.month ≤ 2 then date.year - 1 else date.year
  let cycle := year / 400
  let inCycle := year % 400
  let month : Int := (date.month + 9) % 12
  -- From March on, any five months have 153 days.
  let inYear := (153 * month + 2) / 5 + date.day - 1
  cycle * cycleDays + inCycle * 365 + inCycle / 4 - inCycle / 100 + inYear - epochDays

/-- The date that many days after the first of January 1970. -/
def ofDays (days : Int) : Date :=
  let count := days + epochDays
  let cycle := count / cycleDays
  let inCycle := count % cycleDays
  -- Without the leap days before it, a day falls into a year of 365.
  let year := (inCycle - inCycle / 1460 + inCycle / 36524 - inCycle / 146096) / 365
  let inYear := inCycle - (365 * year + year / 4 - year / 100)
  let month := (5 * inYear + 2) / 153
  let day := inYear - (153 * month + 2) / 5 + 1
  let early := month < 10
  { year := year + cycle * 400 + if early then 0 else 1
    month := (if early then month + 3 else month - 9).toNat
    day := day.toNat }

end Date

end Vivarium.Time
