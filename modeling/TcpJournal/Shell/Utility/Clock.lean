import TcpJournal.Instant.Rfc3339
import TcpJournal.Shell.WallClock
import TcpJournal.Shell.Utility.Options

/-!
# The clock

The program that shows a point of time.
-/

namespace TcpJournal

namespace Shell

namespace Utility

open Shell.Program

/-- The point of time that a text names: seconds behind an at sign, or a date
that a time of day may follow. -/
def namedInstant? (text : Chars) : Option Instant :=
  match text with
  | '@' :: digits =>
    let (negative, rest) := leadingSign digits
    let whole := rest.takeWhile Text.isDigit
    let n : Int := Decimal.value whole
    if whole = [] then none else Instant.make? (if negative then -n else n) 0
  | text =>
    if text = "now".toList || text = "today".toList then Instant.make? clockSeconds 0
    else
      let day := text.take 10
      let time := (text.drop 10).dropWhile fun c => c = ' ' || c = 'T'
      let time := if time = [] then "00:00:00".toList else time
      let time := if time.length = 5 then time ++ ":00".toList else time
      (Instant.parse? (day ++ 'T' :: time)).orElse fun _ =>
        Instant.parse? (day ++ 'T' :: time ++ ['Z'])

/-- Show a point of time. -/
def date : Program :=
  withOptions "date" 1 ⟨"ud:RI", [("utc", 'u'), ("universal", 'u'), ("date", 'd'),
    ("rfc-email", 'R'), ("iso-8601", 'I')], true⟩ fun g => do
    let now? := match g.value? 'd' with
      | some text => namedInstant? text
      | none => Instant.make? clockSeconds 0
    match now? with
    | none =>
      report "date" ("invalid date '".toList ++ (g.value? 'd').getD [] ++ ['\''])
      return 1
    | some t =>
      let pattern := match g.operands with
        | ('+' :: pattern) :: _ => pattern
        | _ =>
          (if g.has 'R' then "%a, %d %b %Y %H:%M:%S %z" else if g.has 'I' then "%F"
            else "%a %b %e %H:%M:%S UTC %Y").toList
      output "date" (clockText t (pattern.length + 1) pattern ++ ['\n'])

end Utility

end Shell

end TcpJournal
