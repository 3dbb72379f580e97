import TcpJournal.Delivery

/-!
# Delivery to a command

A command printer runs one command per record, with the sanitized record on its
standard input and no line end added.  How a command is run is left to a
runner; a recorder keeps the calls and refuses those it is told to.

A platform is a runner with the state in which it starts and the bytes that its
commands have written to the standard output.  It may fail to run any command, and
for any reason.
-/

namespace TcpJournal

/-- A command line and the user it runs as. -/
structure Invocation where
  command : String
  user : Option String
  deriving DecidableEq, Repr

/-- A way to run commands that keeps a state of type `ρ`. -/
structure Runner (ρ : Type) where
  run : Invocation → Bytes → ρ → Except DeliveryError Unit × ρ

namespace Runner

/-- The printer that runs an invocation for each record. -/
def printer (runner : Runner ρ) (invocation : Invocation) : Printer ρ :=
  .ofRecord (runner.run invocation)

end Runner

/-- A runner, its state before the first command, and the bytes that commands
have written to the standard output. -/
structure CommandPlatform (ρ : Type) extends Runner ρ where
  fresh : ρ
  written : ρ → Bytes
  written_fresh : written fresh = []

namespace CommandPlatform

/-- Two platforms as one, which starts on the second. -/
def sum (first : CommandPlatform ρ) (second : CommandPlatform ρ') :
    CommandPlatform (ρ ⊕ ρ') where
  run invocation input
    | .inl state =>
      let (result, state) := first.run invocation input state
      (result, .inl state)
    | .inr state =>
      let (result, state) := second.run invocation input state
      (result, .inr state)
  fresh := .inr second.fresh
  written := Sum.elim first.written second.written
  written_fresh := second.written_fresh

end CommandPlatform

/-- One run of a command and its input. -/
structure CommandCall where
  invocation : Invocation
  input : Bytes
  deriving DecidableEq, Repr

/-- The calls made so far, and the numbers, from 1, of the calls to refuse. -/
structure CallRecorder where
  calls : List CommandCall
  refused : List Nat
  deriving DecidableEq, Repr

namespace CallRecorder

/-- Keep a call, and refuse it if its number is among the refused ones. -/
def run (invocation : Invocation) (input : Bytes) (recorder : CallRecorder) :
    Except DeliveryError Unit × CallRecorder :=
  let number := recorder.calls.length + 1
  let result :=
    if recorder.refused.contains number then
      .error (.command invocation.command (.refusedCall number))
    else .ok ()
  (result, { recorder with calls := recorder.calls ++ [⟨invocation, input⟩] })

/-- The runner that keeps calls. -/
def runner : Runner CallRecorder := ⟨run⟩

/-- The platform that keeps calls and refuses none; its commands write nothing. -/
def platform : CommandPlatform CallRecorder where
  toRunner := runner
  fresh := ⟨[], []⟩
  written _ := []
  written_fresh := rfl

end CallRecorder

end TcpJournal
