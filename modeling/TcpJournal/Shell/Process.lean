import TcpJournal.Decimal
import TcpJournal.FileTree
import TcpJournal.Shell.Signal
import TcpJournal.Shell.Syntax
import TcpJournal.Shell.Token
import TcpJournal.Shell.Variable

/-!
# Processes

A process runs commands.  It has variables, functions, options and a table of
descriptors, and it shares with other processes a world of files and streams.
A child starts as a copy of its parent and leaves nothing behind but what it
did to the world and its ending.  Processes take turns only at their ends: the
one on the left side of a pipe has run before the one on its right.
-/

namespace TcpJournal

namespace Shell

/-- A place from which bytes come or to which they go.  A pipe keeps what waits
to be read, and what was written since, last first. -/
inductive Stream where
  | null
  | endless (c : Char)
  | full
  | pipe (waiting written : List Char)
  | file (path : FilePath) (offset : Nat) (appends reads writes : Bool)
  deriving DecidableEq, Repr

/-- What all processes share. -/
structure World where
  files : FileTree
  streams : Array Stream
  nextProcess : Nat
  steps : Nat
  signals : List (Nat × Nat)

/-- What a process has for itself and a child starts with. -/
structure Context where
  id : Nat
  shellId : Nat
  ancestors : List Nat
  name : Chars
  line : Nat
  current : Option Chars
  bindings : List (Chars × Variable)
  hidden : List (Chars × Option Variable)
  arguments : List Chars
  functions : List (Chars × Command)
  aliases : List (Chars × Chars)
  documents : List (Nat × Word)
  nextDocument : Nat
  options : List Char
  optionIndex : Nat
  optionOffset : Nat
  status : Nat
  substitutionStatus : Nat
  trapStatus : Option Nat
  descriptors : List (Nat × Nat)
  traps : List (Nat × Chars)
  directory : FilePath
  mask : Nat
  lastBackground : Option Nat
  isSubshell : Bool
  functionDepth : Nat
  loopDepth : Nat
  dialect : Dialect
  functionNames : List Chars
  memberEndings : List Nat
  choices : List Chars

/-- A child in the background: it has not run before its parent waits. -/
structure Job where
  id : Nat
  context : Context
  command : Command
  ending : Option Ending

/-- A process at work in its world. -/
structure Process extends Context where
  jobs : List Job
  world : World

/-- Why the current command does not go on: the process has ended or is about
to, an error was reported, or a loop or function is left. -/
inductive Jump where
  | ended (ending : Ending)
  | exit
  | fault
  | leaveLoops (count : Nat)
  | nextRound (count : Nat)
  | returned
  deriving DecidableEq, Repr

/-- Steps of a process that always go on. -/
abbrev Steps := StateM Process

/-- Steps of a process that may jump. -/
abbrev Action := ExceptT Jump (StateM Process)

namespace Stream

/-- A stream without what is read from it first; `none` asks for all. -/
def read (s : Stream) (count : Option Nat) (files : FileTree) : Except FileError (Chars × Stream) :=
  match s with
  | .null | .full => .ok ([], s)
  | .endless c => .ok (List.replicate (count.getD 0x20000) c, s)
  | .pipe waiting written =>
    match count with
    | none => .ok (waiting ++ written.reverse, .pipe [] [])
    | some n =>
      let all := if written = [] then waiting else waiting ++ written.reverse
      .ok (all.take n, .pipe (all.drop n) [])
  | .file path offset appends reads writes =>
    if !reads then .error .badDescriptor
    else
      match files.node? path with
      | some (.regular content _) =>
        let rest := content.drop offset
        let taken := match count with
          | none => rest
          | some n => rest.take n
        .ok (taken, .file path (offset + taken.length) appends reads writes)
      | some .directory => .error .isDirectory
      | _ => .ok ([], s)

/-- The text with another one written over it at an offset. -/
def overwrite (content : Chars) (offset : Nat) (text : Chars) : Chars :=
  content.take offset ++ List.replicate (offset - content.length) '\x00' ++ text ++
    content.drop (offset + text.length)

/-- Write a text to a stream. -/
def write (s : Stream) (text : Chars) (files : FileTree) :
    Except FileError (Stream × FileTree) :=
  match s with
  | .null | .endless _ => .ok (s, files)
  | .full => if text = [] then .ok (s, files) else .error .noSpace
  | .pipe waiting written => .ok (.pipe waiting (text.reverse ++ written), files)
  | .file path offset appends reads writes =>
    if !writes then .error .badDescriptor
    else
      match files.node? path with
      | some (.regular content isProgram) =>
        let place := if appends then content.length else offset
        .ok (.file path (place + text.length) appends reads writes,
          files.put path (.regular (overwrite content place text) isProgram))
      | _ => .ok (s, files)

end Stream

namespace Process

/-- The stream of a descriptor. -/
def stream? (p : Process) (descriptor : Nat) : Option (Nat × Stream) :=
  (p.descriptors.lookup descriptor).bind fun i => (p.world.streams[i]?).map fun s => (i, s)

/-- The process with a stream in place of another. -/
def setStream (p : Process) (index : Nat) (s : Stream) : Process :=
  { p with world := { p.world with streams := p.world.streams.set! index s } }

/-- The process with a new stream, and its index. -/
def addStream (p : Process) (s : Stream) : Nat × Process :=
  (p.world.streams.size, { p with world := { p.world with streams := p.world.streams.push s } })

/-- The variable of a name. -/
def binding? (p : Process) (name : Chars) : Option Variable :=
  p.bindings.lookup name

/-- The value of a variable. -/
def value? (p : Process) (name : Chars) : Option Chars :=
  (p.binding? name).bind Variable.text?

/-- The process with a variable, whatever it was before. -/
def bind (p : Process) (name : Chars) (v : Variable) : Process :=
  if p.bindings.any fun entry => entry.1 = name then
    { p with bindings := p.bindings.map fun entry => if entry.1 = name then (name, v) else entry }
  else { p with bindings := p.bindings ++ [(name, v)] }

/-- The process without a variable. -/
def unbind (p : Process) (name : Chars) : Process :=
  { p with bindings := p.bindings.filter fun entry => entry.1 ≠ name }

/-- The process with the variables that every shell sets for itself, whatever
it received. -/
def withShellVariables (p : Process) : Process :=
  let parent := Decimal.digits (p.ancestors.headD 1)
  let always : List (String × Chars) :=
    [("IFS", [' ', '\t', '\n']), ("OPTIND", ['1']), ("PPID", parent)]
  let otherwise : List (String × String) := [("PS1", "# "), ("PS2", "> "), ("PS4", "+ ")]
  let p := always.foldl
    (fun (p : Process) (name, value) =>
      let name := name.toList
      p.bind name (.plain (some value) ((p.binding? name).any Variable.isExported) false)) p
  otherwise.foldl
    (fun (p : Process) (name, value) =>
      let name := name.toList
      if (p.binding? name).isSome then p else p.bind name (.plain (some value.toList) false false))
    (p.bind "PWD".toList (.plain (some (FileTree.pathText p.directory)) true false))

/-- The process with the place that the reading of options has reached. -/
def atOption (p : Process) (index offset : Nat) : Process :=
  let name := "OPTIND".toList
  let v := (p.binding? name).getD .fresh
  { p.bind name { v with value := some (Decimal.digits index) } with
    optionIndex := index, optionOffset := offset }

/-- An option is set. -/
def has (p : Process) (option : Char) : Bool :=
  p.options.contains option

/-- A named choice of the extended shell is made. -/
def hasNamed (p : Process) (choice : String) : Bool :=
  p.choices.any fun name => name = choice.toList

/-- The place of a name in the table of variables. -/
def tablePlace (name : Chars) : Nat :=
  (16 * (name.headD '\x00').toNat + name.foldr (fun c n => c.toNat + n) 0) % 39

/-- The variables that a command receives, in the order of the table. -/
def environment (p : Process) : List (Chars × Chars) :=
  let shown := p.bindings.filterMap fun (name, v) =>
    if v.isExported then v.value.map fun value => (name, value) else none
  shown.mergeSort fun a b => decide (tablePlace a.1 ≤ tablePlace b.1)

end Process

namespace Steps

/-- Read from a descriptor; `none` asks for everything. -/
def read (descriptor : Nat) (count : Option Nat) : Steps (Except FileError Chars) := do
  let p ← get
  match p.stream? descriptor with
  | none => return .error .badDescriptor
  | some (index, s) =>
    match s.read count p.world.files with
    | .error e => return .error e
    | .ok (text, s) =>
      set (p.setStream index s)
      return .ok text

/-- Write to a descriptor. -/
def write (descriptor : Nat) (text : Chars) : Steps (Except FileError Unit) := do
  let p ← get
  match p.stream? descriptor with
  | none => return .error .badDescriptor
  | some (index, s) =>
    match s.write text p.world.files with
    | .error e => return .error e
    | .ok (s, files) =>
      let p := p.setStream index s
      set { p with world := { p.world with files } }
      return .ok ()

/-- Write to the standard output; the answer says whether that worked. -/
def print (text : Chars) : Steps Bool := do
  match ← write 1 text with
  | .ok () => return true
  | .error _ => return false

/-- Write to the standard error. -/
def complain (text : Chars) : Steps Unit := do
  let _ ← write 2 text
  return ()

/-- The line at the front of a text with its end, and what follows it. -/
def firstLine (text : Chars) : Chars × Chars :=
  let line := text.takeWhile (· ≠ '\n')
  match text.drop line.length with
  | [] => (line, [])
  | c :: rest => (line ++ [c], rest)

/-- Read one line from a descriptor with its end. -/
def readLine (descriptor : Nat) : Steps (Except FileError Chars) := do
  let p ← get
  match p.stream? descriptor with
  | some (index, .pipe waiting written) =>
    let (line, rest) := firstLine (if written = [] then waiting else waiting ++ written.reverse)
    set (p.setStream index (.pipe rest []))
    return .ok line
  | some (index, .file path offset appends reads writes) =>
    match (Stream.file path offset appends reads writes).read none p.world.files with
    | .error e => return .error e
    | .ok (text, _) =>
      let line := (firstLine text).1
      set (p.setStream index (.file path (offset + line.length) appends reads writes))
      return .ok line
  | some _ => return .ok []
  | none => return .error .badDescriptor

/-- How a file is opened. -/
inductive Opening where
  | reading
  | writing
  | appending
  | updating
  deriving DecidableEq, Repr

/-- The stream of the descriptor behind those with names of their own that a path
leads to. -/
def channel? (p : Process) (path : Chars) : Option Nat :=
  let start := "/dev/fd/".toList
  let digits := path.drop start.length
  if start.isPrefixOf path && digits ≠ [] && digits.all Text.isDigit then
    p.descriptors.lookup (Decimal.value digits)
  else none

/-- Open a file and answer the index of its stream. -/
def openFile (opening : Opening) (path : Chars) : Steps (Except FileError Nat) := do
  let p ← get
  match channel? p path, p.world.files.find p.directory path with
  | some index, _ => return .ok index
  | none, .error e => return .error e
  | none, .ok place =>
    let fresh (p : Process) (s : Stream) : Steps (Except FileError Nat) := do
      let (index, p) := p.addStream s
      set p
      return .ok index
    let file (offset : Nat) : Stream :=
      .file place offset (opening = .appending) (opening = .reading || opening = .updating)
        (opening ≠ .reading)
    match p.world.files.node? place with
    | some .directory =>
      if opening = .reading then fresh p (file 0) else return .error .isDirectory
    | some (.device .null) => fresh p .null
    | some (.device .zero) => fresh p (.endless '\x00')
    | some (.device .random) => fresh p (.endless 'r')
    | some (.device .full) => fresh p (if opening = .reading then .endless '\x00' else .full)
    | some (.device .terminal) => return .error .noDevice
    | some (.device (.descriptor number)) =>
      match p.descriptors.lookup number with
      | some index => return .ok index
      | none => return .error .notFound
    | some (.regular content isProgram) =>
      if opening = .writing then
        let files := p.world.files.put place (.regular [] isProgram)
        fresh { p with world := { p.world with files } } (file 0)
      else fresh p (file (if opening = .appending then content.length else 0))
    | none =>
      if opening = .reading then return .error .notFound
      else if p.world.files.node? place.dropLast ≠ some .directory then return .error .notFound
      else
        let files := p.world.files.put place (.regular [] false)
        fresh { p with world := { p.world with files } } (file 0)

/-- Read a whole file. -/
def readFile (path : Chars) : Steps (Except FileError Chars) := do
  match ← openFile .reading path with
  | .error e => return .error e
  | .ok index =>
    let p ← get
    match p.world.streams[index]? with
    | none => return .error .badDescriptor
    | some s =>
      match s.read none p.world.files with
      | .error e => return .error e
      | .ok (text, s) =>
        set (p.setStream index s)
        return .ok text

/-- Put a text into a file in place of what it holds. -/
def writeFile (path text : Chars) : Steps (Except FileError Unit) := do
  match ← openFile .writing path with
  | .error e => return .error e
  | .ok index =>
    let p ← get
    match p.world.streams[index]? with
    | none => return .error .badDescriptor
    | some s =>
      match s.write text p.world.files with
      | .error e => return .error e
      | .ok (s, files) =>
        let p := p.setStream index s
        set { p with world := { p.world with files } }
        return .ok ()

end Steps

namespace Action

/-- The text in front of a message of the shell. -/
def messageStart (p : Process) : Chars :=
  let line := (if p.dialect = .plain then [] else "line ".toList) ++ Decimal.digits p.line
  let place := p.name ++ ": ".toList ++ line ++ ": ".toList
  match p.current with
  | some command => place ++ command ++ ": ".toList
  | none => place

/-- Report something without further consequences. -/
def warn (reason : Chars) : Steps Unit := do
  Steps.complain (messageStart (← get) ++ reason ++ ['\n'])

/-- Report an error and give up the command. -/
def fault {α : Type} (reason : Chars) : Action α := do
  warn reason
  modify fun p => { p with status := if p.dialect = .plain then 2 else 1 }
  throw .fault

/-- Set a variable. -/
def assign (name value : Chars) : Action Unit := do
  let p ← get
  match p.binding? name with
  | some v =>
    if v.isReadOnly then fault (name ++ ": is read only".toList)
    else
      set (p.bind name { v.withText value with isExported := v.isExported || p.has 'a' })
  | none => set (p.bind name (.plain (some value) (p.has 'a') false))
  if name = "OPTIND".toList then
    modify fun p => { p with optionIndex := max 1 (Decimal.value value), optionOffset := 0 }

/-- How something ends, without its jump. -/
def attempt {α : Type} (body : Action α) : Action (Except Jump α) :=
  ExceptT.lift body.run

/-- One step is taken; when there are none left, the process is stopped as by a
broken pipe. -/
def tick : Action Unit := do
  let p ← get
  if p.world.steps = 0 then throw (.ended (.signal 13))
  else set { p with world := { p.world with steps := p.world.steps - 1 } }

end Action

end Shell

end TcpJournal
