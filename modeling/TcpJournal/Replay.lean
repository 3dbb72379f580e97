import TcpJournal.Delivery.Outlet
import TcpJournal.Replay.Outcome

/-!
# Replay of a trace

The command line as the program runs it: commands are handed to the shell.
-/

namespace TcpJournal

namespace Replay

/-- The outlet of a destination, before the first record. -/
def outlet : Destination → Outlet :=
  sink Outlet.platform

/-- Run the command line. -/
def run (s : Surroundings) : ReplayOutcome :=
  runOn Outlet.platform s

end Replay

end TcpJournal
