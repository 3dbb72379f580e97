import TcpJournal.Delivery.Command
import TcpJournal.Delivery.Stream

/-!
# Sinks

A sink is a destination of records with its state: a stream, or a command and
the state of the platform that runs it.
-/

namespace TcpJournal

/-- A destination of records, whose commands run on states of type `ρ`. -/
inductive Sink (ρ : Type) where
  | stream (stream : Stream)
  | command (invocation : Invocation) (state : ρ)
  deriving DecidableEq, Repr

namespace Sink

/-- Deliver the record of fields to a sink, a command by means of a runner. -/
def print (runner : Runner ρ) (fields : List Field) (written : Instant) :
    Sink ρ → Delivery × Sink ρ
  | stream s =>
    let (delivery, s) := Stream.writer.printer.print fields written s
    (delivery, stream s)
  | command invocation state =>
    let (delivery, state) := (runner.printer invocation).print fields written state
    (delivery, command invocation state)

/-- The printer of sinks. -/
def printer (runner : Runner ρ) : Printer (Sink ρ) := ⟨print runner⟩

end Sink

namespace CommandPlatform

/-- The bytes that have gone to the standard output: those of the stream, or
those that the commands wrote. -/
def output (platform : CommandPlatform ρ) : Sink ρ → Bytes
  | .stream s => s.written
  | .command _ state => platform.written state

end CommandPlatform

end TcpJournal
