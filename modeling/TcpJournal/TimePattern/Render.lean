import TcpJournal.Instant
import TcpJournal.TimePattern.Item

/-!
# Text of an instant under a time pattern

Each item of a pattern writes its text on its own, in UTC.  Numbers have a
width of two, years of four, and a year outside 0 to 9999 always carries its
sign.  The permissive offset is a form for reading only: a pattern that holds
it, like a pattern with a bad directive, has no text (`TimePattern.render`
gives `none`).
-/

namespace TcpJournal

/-- The Unix day number is shared by all calendar items of an instant. -/
structure CalendarTime where
  instant : Instant
  days : Int
  date : Date

namespace CalendarTime

/-- An instant with its date at hand. -/
def ofInstant (t : Instant) : CalendarTime :=
  ⟨t, t.day, t.date⟩

/-- The hour of the day. -/
def hour (t : CalendarTime) : Nat := t.instant.secondOfDay / 3600

/-- The hour on a clock face, from 1 to 12. -/
def hour12 (t : CalendarTime) : Nat :=
  if t.hour % 12 = 0 then 12 else t.hour % 12

/-- The minute of the hour. -/
def minute (t : CalendarTime) : Nat := t.instant.secondOfDay / 60 % 60

/-- The second of the minute, 60 in a leap second. -/
def second (t : CalendarTime) : Nat :=
  t.instant.secondOfDay % 60 + t.instant.nanos / nanosPerSecond

/-- The nanoseconds since the second began. -/
def nanosecond (t : CalendarTime) : Nat := t.instant.nanos % nanosPerSecond

end CalendarTime

namespace TimeItem

/-- A decimal digit, continued beyond nine along the character table. -/
def digitChar (n : Nat) : Char :=
  Char.ofNat ('0'.toNat + n)

/-- A number of two digits; what exceeds the tens digit continues in the
character table. -/
def twoDigits (padding : Padding) (n : Nat) : List Char :=
  let ones := digitChar (n % 10)
  if n / 10 = 0 then
    match padding with
    | .bare => [ones]
    | .spaces => [' ', ones]
    | .zeros => ['0', ones]
  else [digitChar (n / 10), ones]

/-- A number brought to a width; zeros go between its sign and its digits. -/
def wide (padding : Padding) (width : Nat) (sign digits : List Char) : List Char :=
  match padding with
  | .bare => sign ++ digits
  | .zeros => sign ++ Decimal.padLeft '0' (width - sign.length) digits
  | .spaces => Decimal.padLeft ' ' width (sign ++ digits)

/-- The minus sign of a negative number. -/
def minusSign (i : Int) : List Char :=
  if i < 0 then ['-'] else []

/-- The sign of a number, also of a number that is not negative. -/
def explicitSign (i : Int) : List Char :=
  if i < 0 then ['-'] else ['+']

/-- A year of four digits, or a signed one outside 0 to 9999. -/
def yearText (padding : Padding) (year : Int) : List Char :=
  if 1000 ≤ year && year ≤ 9999 then Decimal.digits year.natAbs
  else if 0 ≤ year && year ≤ 9999 then wide padding 4 [] (Decimal.digits year.natAbs)
  else wide padding 5 (explicitSign year) (Decimal.digits year.natAbs)

/-- A century, which is kept in one byte. -/
def centuryByte (year : Int) : Nat :=
  (year / 100 % 256).toNat

/-- The year within its century. -/
def yearOfCentury (year : Int) : Nat :=
  (year % 100).toNat

/-- The text of a number item. -/
def numberText (padding : Padding) (t : CalendarTime) : TimeNumber → List Char
  | .year => yearText padding t.date.year
  | .century => twoDigits padding (centuryByte t.date.year)
  | .yearOfCentury => twoDigits padding (yearOfCentury t.date.year)
  | .isoYear => yearText padding (Date.isoYear t.days)
  | .isoYearOfCentury => twoDigits padding (yearOfCentury (Date.isoYear t.days))
  | .isoWeek => twoDigits padding (Date.isoWeek t.days)
  | .quarter => [digitChar t.date.quarter]
  | .month => twoDigits padding t.date.month
  | .day => twoDigits padding t.date.day
  | .dayOfYear => wide padding 3 [] (Decimal.digits t.date.ordinal)
  | .sundayWeek => twoDigits padding (t.date.weekNumber (Date.daysFromSunday t.days))
  | .mondayWeek => twoDigits padding (t.date.weekNumber (Date.daysFromMonday t.days))
  | .daysFromSunday => [digitChar (Date.daysFromSunday t.days)]
  | .weekday => [digitChar (Date.daysFromMonday t.days + 1)]
  | .hour => twoDigits padding t.hour
  | .hour12 => twoDigits padding t.hour12
  | .minute => twoDigits padding t.minute
  | .second => twoDigits padding t.second
  | .nanosecond => wide padding 9 [] (Decimal.digits t.nanosecond)
  | .unixSeconds =>
    wide padding 9 (minusSign t.instant.seconds) (Decimal.digits t.instant.seconds.natAbs)

/-- A name, or its first three letters. -/
def nameText (long : Bool) (name : List Char) : List Char :=
  if long then name else name.take 3

/-- The first `places` decimals of a second. -/
def fractionText (places nanos : Nat) : List Char :=
  Decimal.padded places (nanos / 10 ^ (9 - places))

/-- A point and the decimals of a second in groups of three, or nothing for a
whole second. -/
def shortestFractionText (nanos : Nat) : List Char :=
  if nanos = 0 then []
  else if nanos % 1000000 = 0 then '.' :: fractionText 3 nanos
  else if nanos % 1000 = 0 then '.' :: fractionText 6 nanos
  else '.' :: fractionText 9 nanos

/-- The offset of UTC from itself. -/
def offsetText : OffsetForm → List Char
  | .plain => "+0000".toList
  | .colon => "+00:00".toList
  | .seconds => "+00:00:00".toList
  | .hours => "+00".toList

/-- The date and time of RFC 3339. -/
def dateTimeText (t : CalendarTime) : List Char :=
  let two := twoDigits .zeros
  yearText .zeros t.date.year ++ '-' :: two t.date.month ++ '-' :: two t.date.day ++
    'T' :: two t.hour ++ ':' :: two t.minute ++ ':' :: two t.second ++
    shortestFractionText t.nanosecond ++ offsetText .colon

/-- The text of an item, if it can be written. -/
def render? (t : CalendarTime) : TimeItem → Option (List Char)
  | character c => some [c]
  | number field padding => some (numberText padding t field)
  | monthName long => some (nameText long (Date.monthName t.date.month))
  | weekdayName long => some (nameText long (Date.weekdayName (Date.daysFromMonday t.days)))
  | halfDay upper =>
    let afternoon := decide (12 ≤ t.hour)
    some (match upper, afternoon with
      | true, false => "AM".toList
      | true, true => "PM".toList
      | false, false => "am".toList
      | false, true => "pm".toList)
  | shortestFraction => some (shortestFractionText t.nanosecond)
  | fraction places point =>
    some ((if point then ['.'] else []) ++ fractionText places t.nanosecond)
  | zoneName => some "UTC".toList
  | offset form => some (offsetText form)
  | dateTime => some (dateTimeText t)
  | permissiveOffset => none

end TimeItem

/-- A pattern for the text of an instant. -/
structure TimePattern where
  text : List Char
  deriving DecidableEq, Repr

namespace TimePattern

/-- The pattern of a string. -/
def ofString (text : String) : TimePattern := ⟨text.toList⟩

/-- Every directive of the pattern is known. -/
def isValid (pattern : TimePattern) : Bool :=
  (TimeItem.parse? pattern.text).isSome

/-- The text of a list of items, if every item has one. -/
def renderItems (items : List TimeItem) (t : Instant) : Option (List Char) :=
  let time := CalendarTime.ofInstant t
  (items.mapM (TimeItem.render? time)).map List.flatten

/-- The text of an instant under a pattern, if it can be written. -/
def render (pattern : TimePattern) (t : Instant) : Option (List Char) :=
  match TimeItem.parse? pattern.text with
  | none => none
  | some items => renderItems items t

end TimePattern

end TcpJournal
