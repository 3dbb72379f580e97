import TcpJournal.Lines

/-!
# Capture of a line or a header from a segmented stream

A capture collects one direction of a connection, segment by segment, until
its unit is complete, and then keeps that unit for good.  At most
`Capture.limit` bytes wait for completion; what lies beyond them never takes
part.
-/

namespace TcpJournal

/-- The unit that a capture waits for. -/
inductive CaptureUnit where
  | firstLine
  | headers
  deriving DecidableEq, Repr

namespace CaptureUnit

/-- Written between two header lines. -/
def lineSeparator : Bytes := Bytes.ofString "; "

/-- The text of the unit in the bytes received so far, once it is complete. -/
def extract? : CaptureUnit → Bytes → Option Bytes
  | firstLine, bytes => Bytes.firstLine? bytes
  | headers, bytes => (Bytes.headerLines? bytes).map lineSeparator.intercalate

end CaptureUnit

/-- A unit on its way: the bytes that wait for completion, and the unit itself
once complete. -/
structure Capture where
  unit : CaptureUnit
  pending : Bytes
  captured : Option Bytes
  deriving DecidableEq, Repr

namespace Capture

/-- The number of leading stream bytes that may take part in a unit. -/
def limit : Nat := 8192

/-- A capture that has received nothing. -/
def start (unit : CaptureUnit) : Capture := ⟨unit, [], none⟩

/-- The first `limit` bytes of a kept stream and the data after it. -/
def bounded (kept data : Bytes) : Bytes :=
  kept ++ data.take (limit - kept.length)

/-- Receive one segment. -/
def receive (c : Capture) (data : Bytes) : Capture :=
  match c.captured with
  | some _ => c
  | none =>
    let pending := bounded c.pending data
    match c.unit.extract? pending with
    | some found => { c with pending := [], captured := some found }
    | none => { c with pending }

@[simp]
theorem unit_receive (c : Capture) (data : Bytes) : (c.receive data).unit = c.unit := by
  unfold receive
  split
  · rfl
  · dsimp only
    split <;> rfl

/-- The unit has arrived in full. -/
def isComplete (c : Capture) : Bool := c.captured.isSome

/-- The captured unit, empty until it is complete. -/
def text (c : Capture) : Bytes := c.captured.getD []

end Capture

end TcpJournal
