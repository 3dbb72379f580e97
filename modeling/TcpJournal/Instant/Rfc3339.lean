import TcpJournal.Instant
import TcpJournal.Text

/-!
# Instants written as RFC 3339

The reader is lenient: numbers may be short, white space may stand before each
of them, before the separators, before the offset and at the end, the offset
may be `UTC`, and a year with a sign may have any number of digits.  The second
60 is a leap second.  The date has to exist, and both the local time and the
instant have to lie in the range of instants.
-/

namespace TcpJournal

namespace Instant

/-- Digits at the start of a text, at least one and at most a number of them. -/
def readDigits? (most : Option Nat) (text : List Char) : Option (List Char × List Char) :=
  let run := text.takeWhile Text.isDigit
  let run := match most with
    | some n => run.take n
    | none => run
  if run = [] then none else some (run, text.drop run.length)

/-- A number of at most two digits after white space, up to a greatest value. -/
def readTwo? (greatest : Nat) (text : List Char) : Option (Nat × List Char) := do
  let (run, rest) ← readDigits? (some 2) (Text.trimStart text)
  let n := Decimal.value run
  if n ≤ greatest then some (n, rest) else none

/-- A year after white space: up to four digits, or a sign and any digits. -/
def readYear? (text : List Char) : Option (Int × List Char) :=
  let signed (sign : Int) (found : Option (List Char × List Char)) : Option (Int × List Char) :=
    found.map fun (run, after) => (sign * Decimal.value run, after)
  match Text.trimStart text with
  | '-' :: rest => signed (-1) (readDigits? none rest)
  | '+' :: rest => signed 1 (readDigits? none rest)
  | rest => signed 1 (readDigits? (some 4) rest)

/-- The text after white space and a separator. -/
def readSeparator? (c : Char) (text : List Char) : Option (List Char) :=
  Text.expect? c (Text.trimStart text)

/-- The nanoseconds of a fraction, of which nine digits count, if a point
follows. -/
def readFraction? (text : List Char) : Option (Nat × List Char) :=
  match text with
  | '.' :: rest =>
    (readDigits? none rest).map fun (run, after) =>
      let kept := run.take 9
      (Decimal.value kept * 10 ^ (9 - kept.length), after)
  | text => some (0, text)

/-- The text after a date's separator from the time. -/
def readDateEnd? : List Char → Option (List Char)
  | 'T' :: rest | 't' :: rest | ' ' :: rest => some rest
  | _ => none

/-- Hours and minutes of an offset, in seconds. -/
def readOffsetParts? (text : List Char) : Option (Int × List Char) :=
  match text with
  | a :: b :: rest =>
    match rest.dropWhile fun c => c = ':' || Text.isWhitespace c with
    | c :: d :: rest =>
      if [a, b, c, d].all Text.isDigit && c ≤ '5' then
        some ((Decimal.value [a, b] * 3600 + Decimal.value [c, d] * 60 : Nat), rest)
      else none
    | _ => none
  | _ => none

/-- An offset from UTC in seconds, less than a day. -/
def readOffset? (text : List Char) : Option (Int × List Char) :=
  let bounded (found : Option (Int × List Char)) : Option (Int × List Char) :=
    found.filter fun (seconds, _) => seconds.natAbs < 86400
  match text with
  | 'Z' :: rest | 'z' :: rest => some (0, rest)
  | '+' :: rest => bounded (readOffsetParts? rest)
  | '-' :: rest | '\u2212' :: rest =>
    bounded ((readOffsetParts? rest).map fun (seconds, after) => (-seconds, after))
  | u :: t :: c :: rest =>
    if (u = 'U' || u = 'u') && (t = 'T' || t = 't') && (c = 'C' || c = 'c') then some (0, rest)
    else none
  | _ => none

/-- The years that a local time may have. -/
def isLocalYear (year : Int) : Bool :=
  -262143 ≤ year && year ≤ 262142

/-- The instant of a local date and time of day at an offset. -/
def ofLocal? (date : Date) (hour minute second nanos : Nat) (offset : Int) : Option Instant :=
  if isLocalYear date.year && date.exists? then
    let secondOfDay : Nat := hour * 3600 + minute * 60 + min second 59
    let leap := if second = 60 then nanosPerSecond else 0
    make? (date.toDays * 86400 + secondOfDay - offset) (nanos + leap)
  else none

/-- The instant that a text is. -/
def parse? (text : List Char) : Option Instant := do
  let (year, text) ← readYear? text
  let (month, text) ← readTwo? 12 (← readSeparator? '-' text)
  let (day, text) ← readTwo? 31 (← readSeparator? '-' text)
  let (hour, text) ← readTwo? 23 (← readDateEnd? text)
  let (minute, text) ← readTwo? 59 (← readSeparator? ':' text)
  let (second, text) ← readTwo? 60 (← readSeparator? ':' text)
  let (nanos, text) ← readFraction? text
  let (offset, text) ← readOffset? (Text.trimStart text)
  if Text.trimStart text = [] then
    ofLocal? ⟨year, month, day⟩ hour minute second nanos offset
  else none

end Instant

end TcpJournal
