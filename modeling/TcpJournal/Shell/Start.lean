import TcpJournal.Shell.Builtin.Extended
import TcpJournal.Shell.Redirect
import TcpJournal.Shell.Utility.Table

/-!
# Starting programs

A program starts as a child with the variables that are passed on, the directory
and the descriptors, and nothing else of its parent.  A text with a mark in its
first line is run by the program behind the mark, any other text by a shell.
Shells are programs too: the plain one, and the extended one with its own
options and variables.
-/

namespace TcpJournal

namespace Shell

namespace Evaluate

/-- A process as a program starts it: nothing but the variables that are passed
on, the directory and the descriptors. -/
def freshContext (p : Process) (id : Nat) (name : Chars) : Context :=
  { p.toContext with
    id
    shellId := id
    ancestors := if id = p.id then p.ancestors else p.id :: p.ancestors
    name
    line := 1
    current := none
    bindings := p.bindings.filterMap fun (name, v) =>
      if v.isExported && v.value.isSome then
        some (name, .plain v.value true false)
      else none
    hidden := []
    arguments := []
    functions := []
    aliases := []
    documents := []
    nextDocument := 0
    options := []
    optionIndex := 1
    optionOffset := 0
    status := 0
    substitutionStatus := 0
    trapStatus := none
    traps := p.traps.filter fun entry => entry.2 = []
    lastBackground := none
    isSubshell := false
    functionDepth := 0
    loopDepth := 0
    dialect := .plain
    functionNames := []
    memberEndings := []
    choices := [] }

/-- Run a plain shell as a program: a command line, a file, or the lines of the input. -/
def runPlainShell (run : Runner) (words : List Chars) : Action Unit := do
  modify fun p => { p.withShellVariables with options := [], line := 0 }
  let operands := (← Builtin.readOptions true words.length words).getD []
  let takesText := (← get).has 'c'
  Builtin.turn false 'c'
  if !takesText && operands = [] then Builtin.turn true 's'
  let readsInput := (← get).has 's'
  match takesText, operands with
  | true, [] => Action.fault "-c requires an argument".toList
  | true, text :: rest =>
    modify fun p => { p with line := 1, name := rest.headD p.name, arguments := rest.drop 1 }
    runText run .plain text
  | false, operands =>
    modify fun p => { p with line := 1 }
    if readsInput then modify fun p => { p with arguments := operands }
    else
      let path := operands.headD []
      match ← Steps.readFile path with
      | .error e => redirectionFault false path e
      | .ok text =>
        modify fun p => { p with name := path, arguments := operands.drop 1 }
        runText run .plain text
  if readsInput then
    match ← Steps.read 0 none with
    | .ok text => runText run .plain text
    | .error _ => return ()

/-- What the words of an extended shell ask for. -/
structure ExtendedStart where
  letters : Chars
  unset : Chars
  choices : List Chars
  shows : Bool
  operands : List Chars
  deriving DecidableEq, Repr

namespace ExtendedStart

/-- The long options of an extended shell, and whether an argument follows. -/
def longOptions : List (String × Bool) :=
  [("debugger", false), ("dump-po-strings", false), ("dump-strings", false), ("help", false),
   ("init-file", true), ("login", false), ("noediting", false), ("noprofile", false),
   ("norc", false), ("posix", false), ("pretty-print", false), ("rcfile", true),
   ("restricted", false), ("verbose", false), ("version", false)]

/-- Nothing but operands. -/
def ofOperands (operands : List Chars) : ExtendedStart := ⟨[], [], [], false, operands⟩

/-- The letters of an option turned on or off. -/
def withLetters (start : ExtendedStart) (isOn : Bool) (letters : Chars) : ExtendedStart :=
  let letters := letters.filter fun c => c ≠ 'o' && c ≠ 'O'
  if isOn then { start with letters := letters ++ start.letters }
  else { start with unset := letters ++ start.unset }

/-- The letters that an option of an extended shell may have. -/
def knownLetters : Chars := "abefhkmnptuvxBCEHPTcilrsoOD".toList

/-- The start that words ask for, or the words of a complaint. -/
def ofWords : Nat → List Chars → Except Chars ExtendedStart
  | 0, words => .ok (ofOperands words)
  | fuel + 1, words =>
    match words with
    | ['-'] :: rest | ['-', '-'] :: rest => .ok (ofOperands rest)
    | (sign :: c :: text) :: rest =>
      let name := if c = '-' then text else c :: text
      match longOptions.find? fun entry => entry.1.toList = name with
      | some (name, takesMore) =>
        (ofWords fuel (if takesMore then rest.drop 1 else rest)).map fun start =>
          if name = "version" || name = "help" then { start with shows := true }
          else if name = "verbose" then start.withLetters true ['v']
          else start
      | none =>
        if sign ≠ '-' && sign ≠ '+' then .ok (ofOperands words)
        else
          let letters := c :: text
          match letters.find? fun d => !knownLetters.contains d with
          | some unknown =>
            .error ((if c = '-' then letters else [sign, unknown]) ++ ": invalid option".toList)
          | none =>
            let isOn : Bool := sign = '-'
            let named := letters.filter fun d => d = 'o' || d = 'O'
            (ofWords fuel (rest.drop named.length)).bind fun start =>
              (named.zip rest).foldlM
                (fun start (letter, name) =>
                  if letter = 'O' then .ok { start with choices := name :: start.choices }
                  else
                    match Builtin.extendedOptions.find? fun entry => entry.1.toList = name with
                    | some (_, letter) => .ok (start.withLetters isOn [letter])
                    | none => .error (name ++ ": invalid option name".toList))
                (start.withLetters isOn letters)
    | words => .ok (ofOperands words)

end ExtendedStart

/-- The version of the extended shell. -/
def extendedVersion : String := "5.2.15(1)-release"

/-- The version of the extended shell by its parts. -/
def extendedVersionParts : List String := ["5", "2", "15", "1", "release", "x86_64-pc-linux-gnu"]

/-- The process with the variables that the extended shell sets for itself. -/
def withExtendedVariables (p : Process) : Process :=
  let level := (p.value? "SHLVL".toList).map Decimal.value
  let level := Decimal.digits ((level.getD 0) + 1)
  let texts : List (String × Chars × Bool × Bool) :=
    [("BASH", "/bin/bash".toList, false, false),
     ("BASH_VERSION", extendedVersion.toList, false, false),
     ("EUID", ['0'], false, true), ("HOSTNAME", "localhost".toList, false, false),
     ("HOSTTYPE", "x86_64".toList, false, false), ("IFS", [' ', '\t', '\n'], false, false),
     ("MACHTYPE", "x86_64-pc-linux-gnu".toList, false, false), ("OPTERR", ['1'], false, false),
     ("OPTIND", ['1'], false, false), ("OSTYPE", "linux-gnu".toList, false, false),
     ("PPID", Decimal.digits (p.ancestors.headD 1), false, true),
     ("PS4", "+ ".toList, false, false),
     ("PWD", FileTree.pathText p.directory, true, false), ("SHLVL", level, true, false),
     ("UID", ['0'], false, true)]
  let p := texts.foldl
    (fun (p : Process) (name, text, isExported, isReadOnly) =>
      let isExported := isExported || ((p.binding? name.toList).any Variable.isExported)
      p.bind name.toList (.plain (some text) isExported isReadOnly)) p
  let parts := Elements.ofTexts (extendedVersionParts.map String.toList)
  p.bind "BASH_VERSINFO".toList
    { Variable.fresh with elements := some parts, isReadOnly := true }

/-- Run an extended shell as a program. -/
def runExtendedShell (run : Runner) (words : List Chars) : Action Unit := do
  modify fun p =>
    { withExtendedVariables p with dialect := .extended, choices := Builtin.firstChoices }
  let leave (status : Nat) (reason : Chars) : Action Unit := do
    Steps.complain ((← get).name ++ ": ".toList ++ reason ++ ['\n'])
    setStatus status
  match ExtendedStart.ofWords (words.length + 1) words with
  | .error reason => leave 2 reason
  | .ok start =>
    let letters := ('h' :: 'B' :: start.letters).filter fun c => !start.unset.contains c
    modify fun p => { p with options := letters, choices := start.choices ++ p.choices }
    if start.shows then
      let _ ← Steps.print
        ("GNU bash, version ".toList ++ extendedVersion.toList ++ " (x86_64-pc-linux-gnu)\n".toList)
      setStatus 0
    else if letters.contains 'c' then
      match start.operands with
      | [] => leave 2 "-c: option requires an argument".toList
      | text :: rest =>
        modify fun p => { p with name := rest.headD p.name, arguments := rest.drop 1 }
        runText run .plain text
    else
      match if letters.contains 's' then none else start.operands.head? with
      | some path =>
        match ← Steps.readFile path with
        | .error e =>
          leave (if e = .isDirectory || e = .accessDenied then 126 else 127)
            (path ++ ": ".toList ++ e.message.toList)
        | .ok text =>
          modify fun p => { p with name := path, arguments := start.operands.drop 1 }
          runText run .plain text
      | none =>
        modify fun p => { p with arguments := start.operands, options := 's' :: p.options }
        runInput run ((← get).world.steps + 1) 1

/-- The file of a program, or why there is none. -/
def programFile (p : Process) (name : Chars) : Except FileError Chars :=
  let isProgram (path : Chars) : Except FileError Chars :=
    match p.world.files.find p.directory path with
    | .error e => .error e
    | .ok place =>
      match p.world.files.node? place with
      | none => .error .notFound
      | some (.regular _ true) => .ok path
      | some _ => .error .accessDenied
  if name.contains '/' then isProgram name
  else if name = "su".toList then .ok name
  else if name = [] then .error .notFound
  else
    match Builtin.programPath? p name with
    | some path => .ok path
    | none => .error .notFound

/-- The text of the file of a program; that of a program of the system is empty. -/
def programText (p : Process) (path : Chars) : Chars :=
  match (p.world.files.find p.directory path).toOption.bind p.world.files.node? with
  | some (.regular text _) => text
  | _ => []

/-- The words with which a text is run: those of its first line behind a mark, or
a shell; an empty text is a program of the system. -/
def interpreter? (text : Chars) : Option (Chars × List Chars) :=
  match text with
  | [] => none
  | '#' :: '!' :: rest =>
    let line := (rest.takeWhile (· ≠ '\n')).dropWhile (· = ' ')
    let name := line.takeWhile (· ≠ ' ')
    let argument := (line.drop name.length).dropWhile (· = ' ')
    let argument := (argument.reverse.dropWhile (· = ' ')).reverse
    some (name, if argument = [] then [] else [argument])
  | _ => some ("/bin/sh".toList, [])

/-- The last name of a path. -/
def lastName (path : Chars) : Chars :=
  (path.reverse.takeWhile (· ≠ '/')).reverse

/-- How a program of the system ends that answered a status: by that, or by a
signal that was sent to it. -/
def endingOf (status : Nat) : Steps Ending := do
  let p ← get
  match fatalSignal? p with
  | some number =>
    let others := p.world.signals.filter fun s => s.1 ≠ p.id
    set { p with world := { p.world with signals := others } }
    return .signal number
  | none => return .exit (status % 256)

/-- Run a program in a child of its own; `id` is given when it takes the place
of its parent.  The depth bounds programs that start programs. -/
def runProgram (run : Runner) : Nat → Option Nat → Chars → List Chars →
    Steps (Except FileError Ending)
  | 0, _, _, _ => return .error .notFound
  | depth + 1, id?, name, words => do
    let p ← get
    let found := programFile p name
    let script? := found.toOption.bind fun path =>
      (interpreter? (programText p path)).map fun (name, options) => (name, options ++ [path])
    match found, script? with
    | .error e, _ => return .error e
    | .ok _, some (interpreter, before) =>
      runProgram run depth id? interpreter (before ++ words)
    | .ok path, none =>
      let program := String.ofList (lastName path)
      if program = "sleep" then waitAll run
      let parent ← get
      let id := id?.getD parent.world.nextProcess
      set
        { parent with
          toContext := freshContext parent id name
          jobs := []
          world := { parent.world with nextProcess := parent.world.nextProcess + 1 } }
      let ending ←
        if program = "sh" || program = "dash" then
          finish run (waitAll run) (← (runPlainShell run words).run)
        else if program = "bash" || program = "rbash" then
          finish run (waitAll run) (← (runExtendedShell run words).run)
        else if program = "kill" then
          match ← (Builtin.kill words).run with
          | .ok status => pure (.exit status)
          | .error _ => pure (.exit 1)
        else
          let spawn : Spawn := fun words =>
            match words with
            | [] => return .error .notFound
            | name :: words => runProgram run depth none name words
          match Utility.find? spawn program with
          | some utility => endingOf (← utility words)
          | none => pure (.exit 1)
      let child ← get
      set { parent with world := child.world }
      return .ok ending

/-- How many programs can start one another. -/
def programDepth : Nat := 32

/-- Why a program cannot be started: the words of a complaint and the status. -/
def startFailure (p : Process) (name : Chars) (e : FileError) : String × Nat :=
  let isDirectory : Bool := name.contains '/' &&
    (match (p.world.files.find p.directory name).toOption.bind p.world.files.node? with
      | some .directory => true
      | _ => false)
  match p.dialect, e with
  | .plain, .accessDenied => ("Permission denied", 126)
  | .plain, _ => (if name = [] then "Permission denied" else "not found", 127)
  | .extended, .accessDenied =>
    (if isDirectory then FileError.isDirectory.message else "Permission denied", 126)
  | .extended, .notDirectory => (FileError.notDirectory.message, 126)
  | .extended, e => (if name.contains '/' then e.message else "command not found", 127)

/-- Run a program as a command of the shell. -/
def runCommandWord (run : Runner) (mode : Mode) (name : Chars) (words : List Chars) :
    Action Unit := do
  let p ← get
  let replaces : Bool := mode.isLast && p.traps = []
  match ← runProgram run programDepth (if replaces then some p.id else none) name words with
  | .error e =>
    let (reason, status) := startFailure (← get) name e
    Action.warn (name ++ ": ".toList ++ reason.toList)
    setStatus status
  | .ok ending =>
    if replaces then throw (.ended ending)
    else
      childEnded
      keepEnding ending

end Evaluate

end Shell

end TcpJournal
