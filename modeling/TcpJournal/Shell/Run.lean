import TcpJournal.Bytes
import TcpJournal.Shell.Evaluate

/-!
# Running a command line

A command line runs in a shell of its own.  The shell reads its input from a
pipe, writes to another, and finds a plain system around it.  What is answered
is how it ended, what it and the programs it ran wrote to the output, and the
machine with the files that they left.
-/

namespace TcpJournal

namespace Shell

/-- How a command line ended, and what it wrote. -/
structure Outcome where
  ending : Ending
  output : Bytes
  deriving DecidableEq, Repr

/-- The number of the first process. -/
def firstProcess : Nat := 4194

/-- What one command line leaves to the next: the files, and the number of the
next process. -/
structure Machine where
  files : FileTree
  nextProcess : Nat
  deriving DecidableEq, Repr

/-- A plain machine on which no command has run. -/
def Machine.plain : Machine := ⟨.standard, firstProcess⟩

/-- How many commands a shell and its children run. -/
def stepLimit : Nat := 200000

/-- How deep commands stand inside one another. -/
def depthLimit : Nat := 12000

/-- The variables that a shell receives. -/
def initialVariables : List (String × String) :=
  [("HOME", "/root"), ("PATH", "/usr/local/sbin:/usr/local/bin:/usr/sbin:/usr/bin:/sbin:/bin"),
   ("PWD", "/tmp")]

/-- A shell on a machine before its first command. -/
def startProcess (machine : Machine) (input : Bytes) : Process :=
  Process.withShellVariables {
    id := machine.nextProcess
    shellId := machine.nextProcess
    ancestors := []
    name := "/bin/sh".toList
    line := 1
    current := none
    bindings := initialVariables.map fun (name, value) =>
      (name.toList, .plain (some value.toList) true false)
    hidden := []
    arguments := []
    functions := []
    aliases := []
    documents := []
    nextDocument := 0
    options := []
    optionIndex := 1
    optionOffset := 0
    status := 0
    substitutionStatus := 0
    trapStatus := none
    descriptors := [(0, 0), (1, 1), (2, 2)]
    traps := []
    directory := ["tmp".toList]
    mask := 18
    lastBackground := none
    isSubshell := false
    functionDepth := 0
    loopDepth := 0
    dialect := .plain
    functionNames := []
    memberEndings := []
    choices := []
    jobs := []
    world :=
      { files := machine.files
        streams := #[.pipe (input.byteChars) [], .pipe [] [], .pipe [] []]
        nextProcess := machine.nextProcess + 1
        steps := stepLimit
        signals := [] } }

/-- What has been written to a stream. -/
def writtenTo (p : Process) (index : Nat) : Chars :=
  match p.world.streams[index]? with
  | some (.pipe waiting written) => waiting ++ written.reverse
  | _ => []

/-- Run a command line on an input. -/
def execute (command : List Char) (input : Bytes) (machine : Machine) : Outcome × Machine :=
  let run := Evaluate.runner depthLimit
  let body : Steps Ending := do
    let text := (Bytes.ofText command).byteChars
    let words := ["-c".toList, text]
    Evaluate.finish run (Evaluate.waitAll run) (← (Evaluate.runPlainShell run words).run)
  let (ending, p) := body.run (startProcess machine input)
  (⟨ending, Bytes.ofByteChars (writtenTo p 1)⟩, ⟨p.world.files, p.world.nextProcess⟩)

end Shell

end TcpJournal
