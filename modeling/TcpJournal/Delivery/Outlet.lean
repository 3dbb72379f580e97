import TcpJournal.Delivery.Shell
import TcpJournal.Delivery.Sink

/-!
# Outlets

The sinks that a session can be given: a stream, a command whose calls are
recorded, and a command that the shell runs.
-/

namespace TcpJournal

/-- A sink whose commands are recorded or run by the shell. -/
abbrev Outlet : Type := Sink (CallRecorder ⊕ CommandHost)

namespace Outlet

/-- A command whose calls are recorded. -/
@[match_pattern]
def recorder (invocation : Invocation) (recorder : CallRecorder) : Outlet :=
  .command invocation (.inl recorder)

/-- A command that the shell runs. -/
@[match_pattern]
def shell (invocation : Invocation) (host : CommandHost) : Outlet :=
  .command invocation (.inr host)

/-- The recorder and the shell, which runs the commands of a new outlet. -/
def platform : CommandPlatform (CallRecorder ⊕ CommandHost) :=
  CallRecorder.platform.sum CommandShell.platform

/-- Deliver the record of fields to an outlet. -/
def print (fields : List Field) (written : Instant) (outlet : Outlet) : Delivery × Outlet :=
  Sink.print platform.toRunner fields written outlet

/-- The printer of an outlet. -/
def printer : Printer Outlet := ⟨print⟩

end Outlet

end TcpJournal
