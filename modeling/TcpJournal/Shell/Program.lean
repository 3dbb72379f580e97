import TcpJournal.Shell.Builtin.Print
import TcpJournal.Shell.Process

/-!
# Programs outside the shell

A program takes words, reads and writes streams, and ends with a status.
-/

namespace TcpJournal

namespace Shell

/-- How a program starts another one: by its name and words. -/
abbrev Spawn := List Chars → Steps (Except FileError Ending)

/-- A program: from its words to its status. -/
abbrev Program := List Chars → Steps Nat

/-- The status by which a shell knows an ending. -/
def Ending.status : Ending → Nat
  | .exit status => status
  | .signal number => 128 + number

/-- The signal that ends a process among those sent to it. -/
def fatalSignal? (p : Process) : Option Nat :=
  let isFatal (s : Nat × Nat) : Bool :=
    s.1 = p.id && !isIgnoredSignal s.2 && s.2 ≠ 19 &&
      (isUncatchable s.2 || (p.traps.lookup s.2).isNone)
  (p.world.signals.find? isFatal).map Prod.snd

namespace Program

/-- Report something in the name of a program. -/
def report (name : String) (reason : Chars) : Steps Unit :=
  Steps.complain (name.toList ++ ": ".toList ++ reason ++ ['\n'])

/-- Write a text; the answer is the status if that fails. -/
def output (name : String) (text : Chars) : Steps Nat := do
  match ← Steps.write 1 text with
  | .ok () => return 0
  | .error e =>
    report name ("write error: ".toList ++ e.message.toList)
    return 1

end Program

end Shell

end TcpJournal
