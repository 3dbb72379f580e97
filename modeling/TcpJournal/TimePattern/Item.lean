/-!
# Items of a time pattern

A time pattern is text in which `%` starts a directive.  It is read as a list
of items (`TimeItem.parse?`): characters that stand for themselves, numbers
with a padding rule, names, fractions of a second and forms of the zone offset.
Some directives abbreviate several items, and only a directive that is a single
number may carry a padding flag of its own.  A pattern with one bad directive
is bad as a whole.
-/

namespace TcpJournal

/-- How a number is brought to its width. -/
inductive Padding where
  | bare
  | zeros
  | spaces
  deriving DecidableEq, Repr

/-- A number that a pattern can show. -/
inductive TimeNumber where
  | year | century | yearOfCentury
  | isoYear | isoYearOfCentury | isoWeek
  | quarter | month | day | dayOfYear
  | sundayWeek | mondayWeek | daysFromSunday | weekday
  | hour | hour12 | minute | second | nanosecond
  | unixSeconds
  deriving DecidableEq, Repr

/-- How an offset from UTC is written. -/
inductive OffsetForm where
  | plain
  | colon
  | seconds
  | hours
  deriving DecidableEq, Repr

/-- One piece of a time pattern. -/
inductive TimeItem where
  | character (c : Char)
  | number (field : TimeNumber) (padding : Padding)
  | monthName (long : Bool)
  | weekdayName (long : Bool)
  | halfDay (upper : Bool)
  | shortestFraction
  | fraction (places : Nat) (point : Bool)
  | zoneName
  | offset (form : OffsetForm)
  | dateTime
  | permissiveOffset
  deriving DecidableEq, Repr

namespace TimeItem

/-- The padding flag between `%` and a number's letter. -/
def paddingFlag? : Char → Option Padding
  | '-' => some .bare
  | '0' => some .zeros
  | '_' => some .spaces
  | _ => none

/-- The number shown by a letter, with its padding in the absence of a flag. -/
def numberLetter? : Char → Option (TimeNumber × Padding)
  | 'Y' => some (.year, .zeros)
  | 'C' => some (.century, .zeros)
  | 'y' => some (.yearOfCentury, .zeros)
  | 'G' => some (.isoYear, .zeros)
  | 'g' => some (.isoYearOfCentury, .zeros)
  | 'V' => some (.isoWeek, .zeros)
  | 'q' => some (.quarter, .bare)
  | 'm' => some (.month, .zeros)
  | 'd' => some (.day, .zeros)
  | 'e' => some (.day, .spaces)
  | 'j' => some (.dayOfYear, .zeros)
  | 'U' => some (.sundayWeek, .zeros)
  | 'W' => some (.mondayWeek, .zeros)
  | 'w' => some (.daysFromSunday, .bare)
  | 'u' => some (.weekday, .bare)
  | 'H' => some (.hour, .zeros)
  | 'k' => some (.hour, .spaces)
  | 'I' => some (.hour12, .zeros)
  | 'l' => some (.hour12, .spaces)
  | 'M' => some (.minute, .zeros)
  | 'S' => some (.second, .zeros)
  | 'f' => some (.nanosecond, .zeros)
  | 's' => some (.unixSeconds, .bare)
  | _ => none

/-- The items of a text in which each character stands for itself. -/
def characters (text : String) : List TimeItem :=
  text.toList.map character

/-- A number of fixed width. -/
def two (field : TimeNumber) : TimeItem :=
  number field .zeros

/-- Hours, minutes and seconds with colons between them. -/
def clock : List TimeItem :=
  [two .hour, character ':', two .minute, character ':', two .second]

/-- Month, day and year of the century with slashes between them. -/
def slashedDate : List TimeItem :=
  [two .month, character '/', two .day, character '/', two .yearOfCentury]

/-- The items of a letter that is not a number. -/
def letter? : Char → Option (List TimeItem)
  | 'a' => some [weekdayName false]
  | 'A' => some [weekdayName true]
  | 'b' => some [monthName false]
  | 'h' => some [monthName false]
  | 'B' => some [monthName true]
  | 'p' => some [halfDay true]
  | 'P' => some [halfDay false]
  | 'Z' => some [zoneName]
  | 'z' => some [offset .plain]
  | '+' => some [dateTime]
  | '%' => some [character '%']
  | 'n' => some [character '\n']
  | 't' => some [character '\t']
  | 'D' => some slashedDate
  | 'x' => some slashedDate
  | 'F' => some [two .year, character '-', two .month, character '-', two .day]
  | 'v' => some [number .day .spaces, character '-', monthName false, character '-', two .year]
  | 'R' => some [two .hour, character ':', two .minute]
  | 'T' => some clock
  | 'X' => some clock
  | 'r' => some [two .hour12, character ':', two .minute, character ':', two .second,
      character ' ', halfDay true]
  | 'c' => some ([weekdayName false, character ' ', monthName false, character ' ',
      number .day .spaces, character ' '] ++ clock ++ [character ' ', two .year])
  | _ => none

/-- The items of the directive that follows a `%`, and the text after it. -/
def directive? : List Char → Option (List TimeItem × List Char)
  | ':' :: ':' :: ':' :: 'z' :: rest => some ([offset .hours], rest)
  | ':' :: ':' :: 'z' :: rest => some ([offset .seconds], rest)
  | ':' :: 'z' :: rest => some ([offset .colon], rest)
  | '.' :: 'f' :: rest => some ([shortestFraction], rest)
  | '.' :: '3' :: 'f' :: rest => some ([fraction 3 true], rest)
  | '.' :: '6' :: 'f' :: rest => some ([fraction 6 true], rest)
  | '.' :: '9' :: 'f' :: rest => some ([fraction 9 true], rest)
  | '3' :: 'f' :: rest => some ([fraction 3 false], rest)
  | '6' :: 'f' :: rest => some ([fraction 6 false], rest)
  | '9' :: 'f' :: rest => some ([fraction 9 false], rest)
  | '#' :: 'z' :: rest => some ([permissiveOffset], rest)
  | c :: rest =>
    match paddingFlag? c, rest with
    | some padding, letter :: rest =>
      (numberLetter? letter).map fun (field, _) => ([number field padding], rest)
    | some _, [] => none
    | none, rest =>
      match numberLetter? c with
      | some (field, padding) => some ([number field padding], rest)
      | none => (letter? c).map fun items => (items, rest)
  | [] => none

theorem length_lt_of_directive? {text rest : List Char} {items : List TimeItem}
    (h : directive? text = some (items, rest)) : rest.length < text.length := by
  unfold directive? at h
  split at h
  case h_12 =>
    split at h
    · obtain ⟨_, _, he⟩ := Option.map_eq_some_iff.1 h
      cases he
      simp only [List.length_cons]
      omega
    · cases h
    · split at h
      · cases h
        simp only [List.length_cons]
        omega
      · obtain ⟨_, _, he⟩ := Option.map_eq_some_iff.1 h
        cases he
        simp only [List.length_cons]
        omega
  case h_13 => cases h
  all_goals
    cases h
    simp only [List.length_cons]
    omega

/-- The items of a pattern, unless one of its directives is bad. -/
def parse? : List Char → Option (List TimeItem)
  | [] => some []
  | '%' :: text =>
    match _h : directive? text with
    | none => none
    | some (items, rest) => (parse? rest).map (items ++ ·)
  | c :: text => (parse? text).map (character c :: ·)
termination_by text => text.length
decreasing_by
  · have := length_lt_of_directive? _h
    simp only [List.length_cons]
    omega
  · simp only [List.length_cons]
    omega

end TimeItem

end TcpJournal
