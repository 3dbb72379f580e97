import TcpJournal.Delivery.Command
import TcpJournal.Shell.Run

/-!
# Delivery to a shell

The shell runner hands a command line to the shell, and one that names a user
to the user switch.  The record reaches the command on its standard input, and
a command that ends with a status other than 0, or by a signal, has failed.
A shell that cannot be started, and a record that cannot be handed over, are
left out.

The user switch is not carried out: in its place stands a report of the
arguments it is called with and of the record it receives.  Its record always
counts as delivered, so a switch that cannot be started, or that ends with a
status other than 0, is left out as well.  What is proved about records is
proved for every runner, and not for this one alone.
-/

namespace TcpJournal

/-- The machine on which commands run, and what they have written. -/
structure CommandHost where
  machine : Shell.Machine
  written : Bytes
  deriving DecidableEq, Repr

/-- A host on which no command has run. -/
def CommandHost.fresh : CommandHost := ⟨.plain, []⟩

namespace CommandShell

/-- The arguments with which a command line is run as another user. -/
def switchArguments (user command : String) : List String :=
  [user, "-s", "/bin/sh", "-c", command]

/-- The report that stands for a user switch, which is not carried out. -/
def switchReport (user command : String) (input : Bytes) : Bytes :=
  let arguments := (switchArguments user command).map fun a => " [" ++ a ++ "]"
  Bytes.ofString ("su" ++ String.join arguments) ++ Bytes.newline :: input ++ [Bytes.newline]

/-- The result of a command that ended. -/
def result (command : String) : Shell.Ending → Except DeliveryError Unit
  | .exit 0 => .ok ()
  | .exit status => .error (.command command (.exitStatus status))
  | .signal number => .error (.command command (.signal number (Shell.signalName? number)))

/-- A text holds a null character, which no argument of a command can. -/
def holdsNul (text : String) : Bool :=
  text.toList.contains '\x00'

/-- Run an invocation on an input.  One that names a user is reported and
counts as delivered. -/
def run (invocation : Invocation) (input : Bytes) (host : CommandHost) :
    Except DeliveryError Unit × CommandHost :=
  let command := invocation.command
  if holdsNul command || invocation.user.any holdsNul then
    (.error (.command command .nulInCommand), host)
  else
    match invocation.user with
    | some user =>
      (.ok (), { host with written := host.written ++ switchReport user command input })
    | none =>
      let (outcome, machine) := Shell.execute command.toList input host.machine
      (result command outcome.ending, ⟨machine, host.written ++ outcome.output⟩)

/-- The platform that hands commands to the shell. -/
def platform : CommandPlatform CommandHost where
  toRunner := ⟨run⟩
  fresh := .fresh
  written := CommandHost.written
  written_fresh := rfl

end CommandShell

end TcpJournal
