import TcpJournal.Shell.Expansion
import TcpJournal.Shell.Grammar
import TcpJournal.Shell.Program

/-!
# Texts, signals and children

A process runs the lines of a text one after another, arranges for signals, and
has children.  A child runs to its end before its parent goes on, but a child in
the background only when its parent waits for it, sleeps, or ends.  How one
command runs is a parameter here: the runner.
-/

namespace TcpJournal

namespace Shell

/-- Where a command stands: its status is tested by what surrounds it, or it is
the last one of its process. -/
structure Mode where
  isTested : Bool
  isLast : Bool
  deriving DecidableEq, Repr

/-- A runner of commands. -/
abbrev Runner := Mode → Command → Action Unit

/-- A command in the middle. -/
def Mode.plain : Mode := ⟨false, false⟩

/-- A command whose status is tested. -/
def Mode.tested : Mode := ⟨true, false⟩

/-- The mode of a command that others follow. -/
def Mode.followed (mode : Mode) : Mode := { mode with isLast := false }

namespace Evaluate

/-- Set the status. -/
def setStatus (status : Nat) : Steps Unit :=
  modify fun p => { p with status }

/-- Do something and put things in order behind it, even if it jumps. -/
def finally_ {α : Type} (body : Action α) (order : Steps Unit) : Action α := do
  let result ← Action.attempt body
  order
  match result with
  | .ok a => return a
  | .error jump => throw jump

/-- The words that stand for other text where a text is read. -/
def usedAliases (p : Process) : List (Chars × Chars) :=
  if p.dialect = .plain || p.hasNamed "expand_aliases" then p.aliases else []

/-- The start of a text. -/
def startOf (p : Process) (text : Chars) (line : Nat) : Cursor :=
  ⟨text, line, none, [], [], p.nextDocument, usedAliases p, [], p.dialect⟩

/-- A text is no command line.  In the extended shell that ends the text only. -/
def refuse (e : Malformed) : Action Unit := do
  modify fun p => { p with line := e.line }
  if (← get).dialect = .plain then Action.fault e.reason
  else
    Action.warn e.reason
    setStatus 2

/-- Run the commands of a line.  In the extended shell an error ends the line, but a
child ends with it. -/
def runLine (run : Runner) (mode : Mode) (command : Command) : Action Unit := do
  let p ← get
  match ← Action.attempt (run mode command) with
  | .ok () => return ()
  | .error jump =>
    if jump = .fault && p.dialect = .extended && !p.isSubshell then return () else throw jump

/-- Keep the documents that were read with a line. -/
def keepDocuments (after : Cursor) : Steps Unit :=
  modify fun p =>
    { p with documents := after.documents ++ p.documents, nextDocument := after.nextDocument }

/-- Run the lines of a text; the answer says whether there was a command. -/
def runLines (run : Runner) (mode : Mode) : Nat → Cursor → Bool → Action Bool
  | 0, _, ran => return ran
  | fuel + 1, cursor, ran => do
    let p ← get
    let cursor :=
      { cursor with aliases := usedAliases p, nextDocument := p.nextDocument, documents := [] }
    match cursor.nextLine with
    | .error e =>
      refuse e
      return true
    | .ok none => return ran
    | .ok (some line) =>
      keepDocuments line.after
      match line.command with
      | .nothing => runLines run mode fuel line.after ran
      | command =>
        runLine run mode command
        runLines run mode fuel line.after true

/-- Run a text of commands. -/
def runText (run : Runner) (mode : Mode) (text : Chars) : Action Unit := do
  let ran ← runLines run mode (text.length + 2) (startOf (← get) text 1) false
  if !ran then setStatus 0

/-- Give what was read from a descriptor and is left back to it. -/
def giveBack (descriptor : Nat) (rest : Chars) : Steps Unit :=
  modify fun p =>
    match p.stream? descriptor with
    | some (index, .pipe _ _) => p.setStream index (.pipe rest [])
    | some (index, .file path offset appends reads writes) =>
      p.setStream index (.file path (offset - rest.length) appends reads writes)
    | _ => p

/-- Run the lines of the standard input; a command finds there what is behind its
own line. -/
def runInput (run : Runner) : Nat → Nat → Action Unit
  | 0, _ => return ()
  | fuel + 1, line => do
    match ← Steps.read 0 none with
    | .error _ | .ok [] => return ()
    | .ok text =>
      match (startOf (← get) text line).nextLine with
      | .error e => refuse e
      | .ok none => return ()
      | .ok (some found) =>
        keepDocuments found.after
        giveBack 0 found.after.rest
        match found.command with
        | .nothing => pure ()
        | command => runLine run .plain command
        runInput run fuel found.after.line

/-- Run the action for a signal and keep the status. -/
def runTrap (run : Runner) (action : Chars) : Action Unit := do
  let p ← get
  set { p with trapStatus := some p.status }
  runText run .plain action
  modify fun after => { after with status := p.status, trapStatus := p.trapStatus }

/-- Run the action for a signal that only the shell itself knows, which does not
meet that signal again.  Functions do not come with the action unless an option
says so. -/
def runOwnTrap (run : Runner) (number : Nat) (option : Char) : Action Unit := do
  let p ← get
  match p.traps.lookup number with
  | some action =>
    if action = [] || (p.functionDepth > 0 && !p.has option) then return ()
    else
      set { p with traps := p.traps.filter fun entry => entry.1 ≠ number }
      finally_ (runTrap run action) <| modify fun after =>
        if after.traps.any fun entry => entry.1 = number then after
        else { after with traps := (number, action) :: after.traps }
  | none => return ()

/-- What happens to the process because of a signal. -/
def receive (run : Runner) (number : Nat) : Action Unit := do
  let p ← get
  match if isUncatchable number then none else p.traps.lookup number with
  | some [] => return ()
  | some action => runTrap run action
  | none => if isIgnoredSignal number || number = 19 then return () else
      throw (.ended (.signal number))

/-- What happens to the process because of signals that were sent to it. -/
def receiveAll (run : Runner) : Action Unit := do
  let p ← get
  if p.world.signals = [] then return ()
  else
    let (mine, others) := p.world.signals.partition fun s => s.1 = p.id
    set { p with world := { p.world with signals := others } }
    mine.forM fun s => receive run s.2

/-- The extended shell still runs the action for its end when a signal ends it. -/
def endsInOrder (p : Process) (number : Nat) : Bool :=
  p.dialect = .extended && number < 32 && number ≠ 3 && number ≠ 9 && number ≠ 13

/-- End a process: run the action for its end, and what it left waiting. -/
def finish (run : Runner) (waitAll : Steps Unit) (result : Except Jump Unit) : Steps Ending := do
  let p ← get
  let ended? : Option Ending := match result with
    | .error (.ended ending) => some ending
    | _ => none
  let isAtOnce : Bool := match ended? with
    | some (.signal number) => !endsInOrder p number
    | some (.exit _) => true
    | none => false
  let usual := ended?.getD (.exit (p.status % 256))
  let ending ←
    match if isAtOnce then none else p.traps.lookup 0 with
    | none => pure usual
    | some action =>
      set
        { p with
          traps := p.traps.filter fun entry => entry.1 ≠ 0
          trapStatus := some p.status
          current := none }
      match ← (runText run .plain action).run with
      | .error (.ended ending) => pure ending
      | .ok () => pure usual
      | .error _ => pure (.exit ((← get).status % 256))
  waitAll
  return ending

/-- A child of the process has ended, which is a signal to the process where it has
an action for that.  The shell runs the action once for children that end together,
the extended shell once for each. -/
def childEnded : Steps Unit :=
  modify fun p =>
    let notice := (p.id, childSignal)
    match p.traps.lookup childSignal with
    | some (_ :: _) =>
      if p.dialect = .plain && p.world.signals.contains notice then p
      else { p with world := { p.world with signals := p.world.signals ++ [notice] } }
    | _ => p

/-- Run a child in the background to its end, unless it has ended. -/
def runJob (run : Runner) (job : Job) : Steps Job := do
  match job.ending with
  | some _ => return job
  | none =>
    let parent ← get
    set { parent with toContext := job.context, jobs := [] }
    let result ← (run ⟨false, true⟩ job.command).run
    let ending ← finish run (pure ()) result
    let child ← get
    set { parent with world := child.world }
    childEnded
    return { job with ending := some ending }

/-- Run all children in the background to their ends. -/
def waitAll (run : Runner) : Steps Unit := do
  let p ← get
  if p.jobs.any fun job => job.ending.isNone then
    let jobs ← p.jobs.mapM (runJob run)
    modify fun p => { p with jobs }

/-- Run something in a child. -/
def inChild (run : Runner) (body : Action Unit) : Steps Ending := do
  let parent ← get
  let id := parent.world.nextProcess
  set
    { parent with
      id
      ancestors := parent.id :: parent.ancestors
      isSubshell := true
      traps := parent.traps.filter fun entry => entry.2 = []
      trapStatus := none
      jobs := []
      world := { parent.world with nextProcess := id + 1 } }
  let result ← body.run
  let ending ← finish run (waitAll run) result
  let child ← get
  set { parent with world := child.world }
  childEnded
  return ending

/-- Report the signal that ended a child. -/
def reportEnding (ending : Ending) : Steps Unit := do
  match ending with
  | .signal number =>
    if number ≠ 2 && number ≠ 13 then
      Steps.complain ((signalDescription number).toList ++ ['\n'])
  | .exit _ => return ()

/-- Keep the status of a child, and report the signal that ended it. -/
def keepEnding (ending : Ending) : Steps Unit := do
  setStatus ending.status
  reportEnding ending

/-- Start a child in the background with a stream as its input. -/
def startJob (index : Nat) (body : Command) : Steps Unit :=
  modify fun p =>
    let id := p.world.nextProcess
    let context : Context :=
      { p.toContext with
        id
        ancestors := p.id :: p.ancestors
        isSubshell := true
        traps := p.traps.filter fun entry => entry.2 = []
        trapStatus := none
        descriptors := (0, index) :: p.descriptors.filter fun d => d.1 ≠ 0 }
    { p with
      world := { p.world with nextProcess := id + 1 }
      lastBackground := some id
      jobs := p.jobs ++ [Job.mk id context body none]
      status := 0 }

/-- Start a child in the background. -/
def background (body : Command) : Steps Unit := do
  let (index, p) := (← get).addStream .null
  set p
  startJob index body

/-- Give a descriptor a stream, or none. -/
def setDescriptor (descriptor : Nat) (index? : Option Nat) : Steps Unit :=
  modify fun p =>
    let others := p.descriptors.filter fun d => d.1 ≠ descriptor
    { p with descriptors := match index? with
        | some index => (descriptor, index) :: others
        | none => others }

/-- Put the descriptors back behind a command. -/
def restoringDescriptors {α : Type} (body : Action α) : Action α := do
  let before ← get
  finally_ body (modify fun p => { p with descriptors := before.descriptors })

/-- Redirections fail with this message. -/
def redirectionFault {α : Type} (isCreation : Bool) (path : Chars) (e : FileError) :
    Action α := do
  if (← get).dialect = .plain then
    let cause : String :=
      match e with
      | .notFound | .notDirectory => if isCreation then "Directory nonexistent" else "No such file"
      | e => e.message
    Action.fault ((if isCreation then "cannot create " else "cannot open ").toList ++ path ++
      ": ".toList ++ cause.toList)
  else
    let cause := if e = .alreadyExists then "cannot overwrite existing file" else e.message
    Action.fault (path ++ ": ".toList ++ cause.toList)

/-- The file that a command stands for by its redirection alone. -/
def namedFile? (p : Process) (command : Command) : Option Word :=
  match p.dialect, command with
  | .extended, .simple _ [] [] [.read 0 target] => some target
  | _, _ => none

mutual

/-- What runs the commands in words, to a depth. -/
def substitutes (run : Runner) : Nat → Substitute
  | 0 => ⟨fun _ => return [], fun _ _ => return []⟩
  | depth + 1 => ⟨outputOf run depth, channelOf run⟩

/-- The output of a command that runs in a child, or the text of a file. -/
def outputOf (run : Runner) (depth : Nat) (command : Command) : Action Chars := do
  let p ← get
  match namedFile? p command with
  | some target =>
    let path ← Expansion.text (substitutes run depth) target
    match ← Steps.readFile path with
    | .ok text =>
      modify fun p => { p with substitutionStatus := 0 }
      return text
    | .error e =>
      modify fun p => { p with substitutionStatus := 1 }
      Action.warn (path ++ ": ".toList ++ e.message.toList)
      return []
  | none =>
    let (index, p') := p.addStream (.pipe [] [])
    let options := if p.dialect = .plain || p.hasNamed "inherit_errexit" then p.options
      else p.options.filter (· ≠ 'e')
    set
      { p' with
        descriptors := (1, index) :: p'.descriptors.filter fun d => d.1 ≠ 1
        options }
    let ending ← inChild run (run ⟨false, true⟩ command)
    let after ← get
    let text := match after.world.streams[index]? with
      | some (.pipe waiting written) => waiting ++ written.reverse
      | _ => []
    set
      { after.setStream index .null with
        descriptors := p.descriptors
        options := p.options
        substitutionStatus := ending.status
        status := if p.dialect = Dialect.plain then p.status else ending.status }
    return text

/-- A path that leads to the output of a command, or to its input, by a free
descriptor. -/
def channelOf (run : Runner) (isOutput : Bool) (command : Command) : Action Chars := do
  let (index, p) := (← get).addStream (.pipe [] [])
  set p
  if isOutput then
    let before ← get
    setDescriptor 1 (some index)
    let _ ← inChild run (run ⟨false, true⟩ command)
    modify fun after => { after with descriptors := before.descriptors }
  else
    let before ← get
    startJob index command
    modify fun after =>
      { after with lastBackground := before.lastBackground, status := before.status }
  let p ← get
  let isFree (n : Nat) : Bool := (p.descriptors.lookup n).isNone
  let descriptor := ([63, 62, 61, 60].find? isFree).getD 63
  setDescriptor descriptor (some index)
  return "/dev/fd/".toList ++ Decimal.digits descriptor

end

/-- What runs the commands in words. -/
def substitute (run : Runner) : Substitute := substitutes run 8

end Evaluate

end Shell

end TcpJournal
