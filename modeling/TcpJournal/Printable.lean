import TcpJournal.Bytes

/-!
# The byte filter in front of every destination

Only newline, tab and printable ASCII leave the journal unchanged; each other
byte is written as a full stop.  The filter works byte by byte, so it keeps
lengths and distributes over concatenation, and a payload echoed into a record
carries no control sequence to a terminal or a command.
-/

namespace TcpJournal

namespace Bytes

/-- The bytes that may be written unchanged: newline, tab and `0x20` to `0x7E`. -/
def isPrintable (b : UInt8) : Bool :=
  b == 0x0A || b == 0x09 || (0x20 ≤ b && b ≤ 0x7E)

/-- The full stop written in place of a byte that is not printable. -/
def filler : UInt8 := 0x2E

/-- One byte as it is written. -/
def printable (b : UInt8) : UInt8 :=
  if isPrintable b then b else filler

/-- A byte string as it is written. -/
def sanitized (bytes : Bytes) : Bytes :=
  bytes.map printable

/-- What is written is printable, the full stop included. -/
theorem isPrintable_printable (b : UInt8) : isPrintable (printable b) = true := by
  unfold printable
  split
  · assumption
  · decide

theorem isPrintable_of_mem_sanitized {bytes : Bytes} {b : UInt8} (h : b ∈ sanitized bytes) :
    isPrintable b = true := by
  obtain ⟨raw, -, rfl⟩ := List.mem_map.mp h
  exact isPrintable_printable raw

@[simp]
theorem length_sanitized (bytes : Bytes) : (sanitized bytes).length = bytes.length := by
  simp [sanitized]

@[simp]
theorem sanitized_append (a b : Bytes) : sanitized (a ++ b) = sanitized a ++ sanitized b := by
  simp [sanitized]

end Bytes

end TcpJournal
