import TcpJournal.Binary64
import TcpJournal.Calendar

/-!
# Instants

An instant is a whole second of UTC together with the nanoseconds since that
second began.  A leap second has no number of its own: it is the second
billion of nanoseconds of the last second of a minute.  Instants lie in the
years -262143 to 262142.

The time between two instants is a whole number of nanoseconds; as a duration
it is cut to microseconds and written in seconds (`Instant.elapsed`).
-/

namespace TcpJournal

/-- The nanoseconds of a second. -/
def nanosPerSecond : Nat := 1000000000

/-- A point of time in UTC. -/
structure Instant where
  seconds : Int
  nanos : Nat
  inRange : -8334601228800 ≤ seconds ∧ seconds ≤ 8210266876799
  subsecond : nanos < nanosPerSecond ∨ seconds % 60 = 59 ∧ nanos < 2 * nanosPerSecond
  deriving DecidableEq, Repr

namespace Instant

/-- The instant with the given parts, if there is one. -/
def make? (seconds : Int) (nanos : Nat) : Option Instant :=
  if h : (-8334601228800 ≤ seconds ∧ seconds ≤ 8210266876799) ∧
      (nanos < nanosPerSecond ∨ seconds % 60 = 59 ∧ nanos < 2 * nanosPerSecond) then
    some ⟨seconds, nanos, h.1, h.2⟩
  else none

/-- 1970-01-01 00:00:00. -/
def epoch : Instant :=
  ⟨0, 0, by decide, by decide⟩

/-- The greatest number of nanoseconds that a capture clock's reading can hold. -/
def maxClockNanos : Nat := 2 ^ 32 - 1

/-- The instant of a clock reading in seconds and microseconds, or the epoch if
the reading is no instant. -/
def ofTimeval (seconds : Int) (micros : Nat) : Instant :=
  (make? seconds (min (micros * 1000) maxClockNanos)).getD epoch

/-- The instant lies in a leap second. -/
def inLeapSecond (t : Instant) : Bool :=
  nanosPerSecond ≤ t.nanos

/-- The day of an instant, counted from 1970-01-01. -/
def day (t : Instant) : Int :=
  t.seconds / 86400

/-- The second of the day, a leap second counting as the second before it. -/
def secondOfDay (t : Instant) : Nat :=
  (t.seconds % 86400).toNat

/-- The calendar date of an instant. -/
def date (t : Instant) : Date :=
  Date.ofDays t.day

/-- The nanoseconds from one instant to another.  A leap second is one more
second between its own time of day and any later time of day. -/
def nanosBetween (start stop : Instant) : Int :=
  let plain := (stop.seconds - start.seconds) * nanosPerSecond + stop.nanos - start.nanos
  if start.secondOfDay < stop.secondOfDay && start.inLeapSecond then plain + nanosPerSecond
  else if stop.secondOfDay < start.secondOfDay && stop.inLeapSecond then plain - nanosPerSecond
  else plain

/-- A number of microseconds fits a signed 64-bit word. -/
def fitsWord (micros : Int) : Bool :=
  -2 ^ 63 ≤ micros && micros < 2 ^ 63

/-- The seconds from one instant to another, cut to microseconds toward zero;
a difference with too many microseconds for a word is cut to milliseconds. -/
def elapsed (start stop : Instant) : Binary64 :=
  let nanos := nanosBetween start stop
  let micros := nanos.tdiv 1000
  if fitsWord micros then (Binary64.ofInt micros).div (Binary64.ofInt 1000000)
  else (Binary64.ofInt (nanos.tdiv 1000000)).div (Binary64.ofInt 1000)

/-- A duration as it is written in a record: seconds with six decimals. -/
def durationText (duration : Binary64) : List Char :=
  duration.fixed 6

end Instant

end TcpJournal
