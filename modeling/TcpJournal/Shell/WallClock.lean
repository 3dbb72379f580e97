import TcpJournal.Shell.Quotation
import TcpJournal.TimePattern.Render

/-!
# The clock of the system

The clock of a plain system stands still.  Points of time are shown by patterns, and
made from their parts.
-/

namespace TcpJournal

namespace Shell

/-- What the clock shows, in seconds. -/
def clockSeconds : Int := 1704067200

/-- A point of time by a pattern; what is no directive stays as it is. -/
def clockText (t : Instant) : Nat → Chars → Chars
  | 0, _ => []
  | _, [] => []
  | fuel + 1, '%' :: 'N' :: rest =>
    TimeItem.fractionText 9 (t.nanos % nanosPerSecond) ++ clockText t fuel rest
  | fuel + 1, '%' :: rest =>
    match TimeItem.directive? rest with
    | some (items, after) =>
      match TimePattern.renderItems items t with
      | some text => text ++ clockText t fuel after
      | none => '%' :: clockText t fuel rest
    | none => '%' :: clockText t fuel rest
  | fuel + 1, c :: rest => c :: clockText t fuel rest

/-- The seconds of a point of time from its year, month, day, hour, minute and second,
each of which may go over its end. -/
def secondsOf : List Int → Option Int
  | year :: month :: day :: hour :: minute :: second :: _ =>
    let months := 12 * year + (month - 1)
    let first : Date := ⟨months.fdiv 12, (months.fmod 12).toNat + 1, 1⟩
    some (((first.toDays + (day - 1)) * 24 + hour) * 3600 + minute * 60 + second)
  | _ => none

end Shell

end TcpJournal
