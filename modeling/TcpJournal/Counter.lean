import TcpJournal.Power

/-!
# Saturating counters

Counts of bytes and events are kept in 64-bit words that stay at their greatest
value once they have reached it.
-/

namespace TcpJournal

namespace Counter

/-- The greatest count. -/
def limit : Nat := 2 ^ 64 - 1

/-- A count increased by a number, within the limit. -/
def add (count increase : Nat) : Nat :=
  min (count + increase) limit

/-- A saturating counter shows the exact count up to its limit. -/
theorem add_min_limit (count increase : Nat) :
    add (min count limit) increase = min (count + increase) limit := by
  unfold add
  omega

end Counter

end TcpJournal
