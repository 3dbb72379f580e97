/-!
# The proleptic Gregorian calendar

Days are counted from 1970-01-01.  `Date.ofDays` finds the date of a day,
`Date.toDays` counts the days of a date; years are astronomical, so the year
before year 1 is year 0.  Week numbers follow the three usual reckonings:
weeks that start on Sunday, weeks that start on Monday, and ISO 8601 weeks,
which belong to the year of their Thursday.
-/

namespace TcpJournal

/-- A calendar date. -/
structure Date where
  year : Int
  month : Nat
  day : Nat
  deriving DecidableEq, Repr

namespace Date

/-- The year has a 29 February. -/
def isLeapYear (year : Int) : Bool :=
  year % 4 == 0 && (year % 100 != 0 || year % 400 == 0)

/-- The number of days of a month, and 0 for a month that does not exist. -/
def daysInMonth (year : Int) : Nat → Nat
  | 2 => if isLeapYear year then 29 else 28
  | 4 | 6 | 9 | 11 => 30
  | 1 | 3 | 5 | 7 | 8 | 10 | 12 => 31
  | _ => 0

/-- The date exists in the calendar. -/
def exists? (date : Date) : Bool :=
  1 ≤ date.day && date.day ≤ daysInMonth date.year date.month

/-- The days from 1970-01-01 to 1 January of a year. -/
def daysBeforeYear (year : Int) : Int :=
  let past := year - 1
  365 * (year - 1970) + past / 4 - past / 100 + past / 400 - 477

/-- The number of days of a year before the first of a month. -/
def daysBeforeMonth (year : Int) (month : Nat) : Nat :=
  (List.range month).foldr (fun m days => daysInMonth year m + days) 0

/-- The days from 1970-01-01 to a date. -/
def toDays (date : Date) : Int :=
  daysBeforeYear date.year + daysBeforeMonth date.year date.month + date.day - 1

/-- The date of a day.  Years are counted from March, in cycles of 400 years or
146097 days, so that the leap day is the last day of its year. -/
def ofDays (days : Int) : Date :=
  let shifted := days + 719468
  let cycle := shifted / 146097
  let dayOfCycle := (shifted % 146097).toNat
  let yearOfCycle :=
    (dayOfCycle - dayOfCycle / 1460 + dayOfCycle / 36524 - dayOfCycle / 146096) / 365
  let dayOfYear := dayOfCycle - (365 * yearOfCycle + yearOfCycle / 4 - yearOfCycle / 100)
  let marchMonth := (5 * dayOfYear + 2) / 153
  let day := dayOfYear - (153 * marchMonth + 2) / 5 + 1
  let month := if marchMonth < 10 then marchMonth + 3 else marchMonth - 9
  let year := (yearOfCycle : Int) + 400 * cycle
  ⟨if month ≤ 2 then year + 1 else year, month, day⟩

/-- The position of a date in its year, from 1. -/
def ordinal (date : Date) : Nat :=
  daysBeforeMonth date.year date.month + date.day

/-- The quarter of the year, from 1 to 4. -/
def quarter (date : Date) : Nat :=
  (date.month - 1) / 3 + 1

/-- The number of days from the last Monday to a day. -/
def daysFromMonday (days : Int) : Nat :=
  ((days + 3) % 7).toNat

/-- The number of days from the last Sunday to a day. -/
def daysFromSunday (days : Int) : Nat :=
  ((days + 4) % 7).toNat

/-- The number of a date's week when weeks start `sinceStart` days before it
and week 1 is the first that starts in the year. -/
def weekNumber (date : Date) (sinceStart : Nat) : Nat :=
  (date.ordinal + 6 - sinceStart) / 7

/-- The date of the Thursday in the week, Monday to Sunday, of a day. -/
def thursdayOfWeek (days : Int) : Date :=
  ofDays (days - daysFromMonday days + 3)

/-- The year that an ISO 8601 week is counted in. -/
def isoYear (days : Int) : Int :=
  (thursdayOfWeek days).year

/-- The number of an ISO 8601 week, from 1. -/
def isoWeek (days : Int) : Nat :=
  ((thursdayOfWeek days).ordinal - 1) / 7 + 1

/-- English names of the months, January first. -/
def monthNames : List String :=
  ["January", "February", "March", "April", "May", "June", "July", "August",
   "September", "October", "November", "December"]

/-- English names of the days of the week, Monday first. -/
def weekdayNames : List String :=
  ["Monday", "Tuesday", "Wednesday", "Thursday", "Friday", "Saturday", "Sunday"]

/-- The name of a month given by its number. -/
def monthName (month : Nat) : List Char :=
  (monthNames.getD (month - 1) "").toList

/-- The name of a weekday given by the days since Monday. -/
def weekdayName (sinceMonday : Nat) : List Char :=
  (weekdayNames.getD sinceMonday "").toList

end Date

end TcpJournal
