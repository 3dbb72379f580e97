import TcpJournal.Delivery

/-!
# Delivery to a stream

A stream printer writes each record and a newline and then flushes.  A writer
may take only part of what it is offered; the rest is offered again until all
is written or the writer fails, so bytes of a failed record may have been
written before the failure.  A write that is interrupted is made again at once
and is not counted as an answer of the writer.
-/

namespace TcpJournal

/-- A byte sink that keeps a state of type `ω`.  A write reports how many of the
offered bytes were taken. -/
structure Writer (ω : Type) where
  write : Bytes → ω → Except WriteError Nat × ω
  flush : ω → Except WriteError Unit × ω

namespace Writer

/-- Offer bytes until all are taken or the writer fails; a writer that takes
none has failed. -/
def writeAll (writer : Writer ω) (bytes : Bytes) (state : ω) : Except WriteError Unit × ω :=
  if _h : bytes = [] then (.ok (), state)
  else
    match writer.write bytes state with
    | (.error e, state) => (.error e, state)
    | (.ok 0, state) => (.error .acceptsNothing, state)
    | (.ok (n + 1), state) => writeAll writer (bytes.drop (n + 1)) state
termination_by bytes.length
decreasing_by
  have := List.length_pos_iff.2 _h
  simp
  omega

/-- Write bytes in full and flush. -/
def deliver (writer : Writer ω) (bytes : Bytes) (state : ω) : Except WriteError Unit × ω :=
  match writer.writeAll bytes state with
  | (.error e, state) => (.error e, state)
  | (.ok (), state) => writer.flush state

/-- The printer that ends each record with a newline. -/
def printer (writer : Writer ω) : Printer ω :=
  .ofRecord fun record state =>
    match writer.deliver (record ++ [Bytes.newline]) state with
    | (.ok (), state) => (.ok (), state)
    | (.error e, state) => (.error (.write e), state)

end Writer

/-- A stream that has taken some bytes and may have room for a limited number
more.  Without room it refuses a write, or takes nothing of it. -/
structure Stream where
  written : Bytes
  room : Option Nat
  stalls : Bool
  flushes : Bool
  deriving DecidableEq, Repr

namespace Stream

/-- A stream without a limit. -/
def unlimited (written : Bytes) : Stream := ⟨written, none, false, true⟩

/-- Take what fits of the offered bytes. -/
def write (offered : Bytes) (stream : Stream) : Except WriteError Nat × Stream :=
  match stream.room with
  | none => (.ok offered.length, { stream with written := stream.written ++ offered })
  | some 0 => (if stream.stalls then .ok 0 else .error .diskFull, stream)
  | some room =>
    let taken := offered.take room
    (.ok taken.length,
      { stream with written := stream.written ++ taken, room := some (room - taken.length) })

/-- Flush a stream. -/
def flush (stream : Stream) : Except WriteError Unit × Stream :=
  (if stream.flushes then .ok () else .error .flushFailed, stream)

/-- The writer of a stream. -/
def writer : Writer Stream := ⟨write, flush⟩

end Stream

end TcpJournal
