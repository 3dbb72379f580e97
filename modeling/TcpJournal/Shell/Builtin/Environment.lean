import TcpJournal.Shell.Builtin.Variables

/-!
# Commands on the process

The commands of the shell that concern its directory, its signals and the names
of commands.  Each answers a status.
-/

namespace TcpJournal

namespace Shell

namespace Builtin

/-- The mode of files as digits. -/
def octal (n : Nat) : Chars :=
  Decimal.padLeft '0' 4 (Nat.toDigits 8 n)

/-- Change the directory. -/
def changeDirectory (arguments : List Chars) : Action Nat := do
  let (_, words) ← leadingOptions ['L', 'P'] arguments
  let p ← get
  let target? := match words with
    | [] => p.value? "HOME".toList
    | ['-'] :: _ => some ((p.value? "OLDPWD".toList).getD [])
    | word :: _ => some word
  match target? with
  | none => return 0
  | some target =>
    let target := if target = [] then ['.'] else target
    match p.world.files.find p.directory target with
    | .error _ => Action.fault ("can't cd to ".toList ++ target)
    | .ok place =>
      if p.world.files.node? place = some .directory then
        let old := FileTree.pathText p.directory
        set { p with directory := place }
        Action.assign "OLDPWD".toList old
        Action.assign "PWD".toList (FileTree.pathText place)
        if words.head? = some ['-'] then
          let _ ← Steps.print (FileTree.pathText place ++ ['\n'])
        return 0
      else Action.fault ("can't cd to ".toList ++ target)

/-- Show the directory. -/
def showDirectory : Action Nat := do
  let ok ← Steps.print (FileTree.pathText (← get).directory ++ ['\n'])
  return if ok then 0 else 1

/-- The rights that a mask of three bits takes away, as letters that are left. -/
def rights (bits : Nat) : Chars :=
  (if bits &&& 4 = 0 then ['r'] else []) ++ (if bits &&& 2 = 0 then ['w'] else []) ++
    (if bits &&& 1 = 0 then ['x'] else [])

/-- Show or set the mask of new files. -/
def mask (arguments : List Chars) : Action Nat := do
  let (options, words) ← leadingOptions ['S'] arguments
  let p ← get
  match words with
  | [] =>
    let text :=
      if options = [] then octal p.mask
      else
        "u=".toList ++ rights (p.mask / 64) ++ ",g=".toList ++ rights (p.mask / 8 % 8) ++
          ",o=".toList ++ rights (p.mask % 8)
    let _ ← Steps.print (text ++ ['\n'])
    return 0
  | word :: _ =>
    if word.all Text.isDigit then
      if word.all fun c => c ≤ '7' then
        set { p with mask := word.foldl (fun n c => 8 * n + Decimal.digitValue c) 0 % 512 }
        return 0
      else Action.fault ("Illegal number: ".toList ++ word)
    else if word.all fun c => "ugoa+-=rwxXst,".toList.contains c then return 0
    else Action.fault ("Illegal mode: ".toList ++ word)

/-- Show limits, none of which is set. -/
def limits (arguments : List Chars) : Action Nat := do
  let values := arguments.filter fun a => a.head? ≠ some '-'
  if values = [] then
    let _ ← Steps.print "unlimited\n".toList
  return 0

/-- The names of the commands inside the shell that are not special. -/
def plainNames : List String :=
  ["[", "alias", "bg", "cd", "chdir", "command", "echo", "false", "fg", "getopts", "hash", "jobs",
   "kill", "printf", "pwd", "read", "test", "true", "type", "ulimit", "umask", "unalias", "wait"]

/-- A command is inside the shell. -/
def isInner (name : Chars) : Bool :=
  specialCommands.contains name || plainNames.any fun n => n.toList = name

/-- What a command word stands for. -/
inductive Meaning where
  | shorthand (text : List Char)
  | keyword
  | special
  | inner
  | function
  | program (path : List Char)
  | nothing
  deriving DecidableEq, Repr

/-- The directories in which programs are looked for. -/
def searchPath (p : Process) : List Chars :=
  match p.value? "PATH".toList with
  | some text => colonPieces text
  | none => ["/usr/local/bin".toList, "/usr/bin".toList, "/bin".toList]

/-- The path of a program that is found by its name. -/
def programPath? (p : Process) (name : Chars) : Option Chars :=
  let candidates := (searchPath p).map fun d =>
    if d = [] then name else if d.getLast? = some '/' then d ++ name else d ++ '/' :: name
  candidates.find? fun path =>
    match (p.world.files.find p.directory path).toOption.bind p.world.files.node? with
    | some (.regular _ isProgram) => isProgram
    | _ => false

/-- What a command word stands for, functions first. -/
def meaning (p : Process) (name : Chars) : Meaning :=
  match p.aliases.lookup name with
  | some text => .shorthand text
  | none =>
    if reservedWords.contains name then .keyword
    else if specialCommands.contains name then .special
    else if (p.functions.lookup name).isSome then .function
    else if isInner name then .inner
    else if name.contains '/' then
      match (p.world.files.find p.directory name).toOption.bind p.world.files.node? with
      | some (.regular _ true) => .program name
      | _ => .nothing
    else
      match programPath? p name with
      | some path => .program path
      | none => .nothing

/-- Look for the programs of command words. -/
def findPrograms (arguments : List Chars) : Action Nat := do
  let (_, names) ← leadingOptions ['r', 'v'] arguments
  let p ← get
  let results ← names.mapM fun name => do
    let isKnown : Bool := (p.functions.lookup name).isSome || isInner name ||
      specialCommands.contains name || (programPath? p name).isSome
    if isKnown then return 0
    else
      Action.warn (name ++ ": not found".toList)
      return 1
  return results.foldl max 0

/-- Tell what command words stand for, at length or by what would run. -/
def describe (atLength : Bool) (names : List Chars) : Action Nat := do
  let p ← get
  let results ← names.mapM fun name => do
    let tell (long : String) (short : Chars) : Action Nat := do
      let _ ← Steps.print ((if atLength then name ++ long.toList else short) ++ ['\n'])
      return 0
    match meaning p name with
    | .shorthand text =>
      let _ ← Steps.print
        (if atLength then name ++ " is an alias for ".toList ++ text ++ ['\n']
          else "alias ".toList ++ name ++ '=' :: singleQuotes text ++ ['\n'])
      return 0
    | .keyword => tell " is a shell keyword" name
    | .special => tell " is a special shell builtin" name
    | .inner => tell " is a shell builtin" name
    | .function => tell " is a shell function" name
    | .program path =>
      let _ ← Steps.print ((if atLength then name ++ " is ".toList ++ path else path) ++ ['\n'])
      return 0
    | .nothing =>
      if atLength then
        let _ ← Steps.print (name ++ ": not found\n".toList)
      return 127
  return results.foldl max 0

/-- A signal that can be arranged for, by number or by name in any case. -/
def trapNumber? (text : Chars) : Option Nat := signalNumber? text

/-- Arrange for signals, or show what is arranged. -/
def trap (arguments : List Chars) : Action Nat := do
  let (_, words) ← leadingOptions [] arguments
  let p ← get
  match words with
  | [] =>
    let lines := (p.traps.mergeSort fun a b => a.1 ≤ b.1).flatMap fun (number, text) =>
      "trap -- ".toList ++ singleQuotes text ++ ' ' :: (listedName number).toList ++ ['\n']
    let _ ← Steps.print lines
    return 0
  | first :: rest =>
    let (action?, names) : Option Chars × List Chars :=
      if rest = [] then (none, words)
      else if first ≠ [] && first.all Text.isDigit then (none, words)
      else (if first = ['-'] then none else some first, rest)
    let rec arrange : List Chars → Action Nat
      | [] => return 0
      | name :: names => do
        match trapNumber? name with
        | none =>
          Steps.complain ("trap: ".toList ++ name ++ ": bad trap\n".toList)
          return 1
        | some number =>
          modify fun p =>
            let others := p.traps.filter fun entry => entry.1 ≠ number
            { p with traps := match action? with
                | some action => (number, action) :: others
                | none => others }
          arrange names
    arrange names

/-- The child in the background that a word behind a percent sign names: by its
place, or the latest one or the one before it. -/
def jobNamed (word : Chars) : Action Job := do
  let missing {α : Type} : Action α := Action.fault ("No such job: %".toList ++ word)
  let jobs := (← get).jobs
  match String.ofList word with
  | "" | "%" | "+" =>
    match jobs.getLast? with
    | some job => return job
    | none => Action.fault "No current job".toList
  | "-" =>
    match jobs.reverse[1]? with
    | some job => return job
    | none => Action.fault "No previous job".toList
  | _ =>
    let number := Decimal.value word
    if word.all Text.isDigit && number ≠ 0 then
      match jobs[number - 1]? with
      | some job => return job
      | none => missing
    else missing

/-- Send a signal to one process: to itself or to one that it comes from, or to
a child that waits in the background.  A child that is named by its place has no
group of its own, which the signal would be for. -/
def sendSignal (number : Nat) (target : Chars) : Action Bool := do
  let p ← get
  let id ← if target.all Text.isDigit && target ≠ [] then pure (some (Decimal.value target))
    else match target with
      | '%' :: word => do
        let _ ← jobNamed word
        pure none
      | '-' :: digits =>
        if digits ≠ [] && digits.all Text.isDigit then pure none
        else Action.fault ("Illegal number: ".toList ++ target)
      | _ => Action.fault ("Illegal number: ".toList ++ target)
  match id with
  | none => return false
  | some id =>
    if id = p.id || p.ancestors.contains id then
      if number ≠ 0 then
        let world := p.world
        set { p with world := { world with signals := world.signals ++ [(id, number)] } }
      return true
    else
      match p.jobs.find? fun job => job.id = id && job.ending.isNone with
      | some _ =>
        if number ≠ 0 && !isIgnoredSignal number then
          set
            { p with
              jobs := p.jobs.map fun (job : Job) =>
                if job.id = id then { job with ending := some (.signal number) } else job }
        return true
      | none => return number = 0 && id = 1

/-- Send a signal to processes, or list the signals. -/
def kill (arguments : List Chars) : Action Nat := do
  let usage {α : Type} : Action α :=
    Action.fault ("Usage: kill [-s sigspec | -signum | -sigspec] [pid | job]... or\n".toList ++
      "kill -l [exitstatus]".toList)
  let send (number : Nat) (targets : List Chars) : Action Nat := do
    if targets = [] then usage
    else
      let results ← targets.mapM fun target => do
        if ← sendSignal number target then return 0
        else
          Action.warn "No such process\n".toList
          return 1
      return results.foldl max 0
  let list (words : List Chars) : Action Nat := do
    match words with
    | [] =>
      let names := (List.range lastSignal).flatMap fun n => (listedName (n + 1)).toList ++ ['\n']
      let _ ← Steps.print ("0\n".toList ++ names)
      return 0
    | word :: _ =>
      let n ← argumentNumber word
      let number := if n > 128 then n - 128 else n
      if 0 < number && number ≤ lastSignal then
        let _ ← Steps.print ((listedName number).toList ++ ['\n'])
        return 0
      else Action.fault ("invalid signal number or exit status: ".toList ++ word)
  match arguments with
  | [] => usage
  | first :: rest =>
    match first with
    | '-' :: name =>
      match if name = [] || name = ['0'] then none else signalNumber? name with
      | some number => send number rest
      | none =>
        if name = ['0'] then send 0 rest
        else if name = ['-'] then send 15 rest
        else
          match name with
          | 'l' :: _ => list rest
          | 's' :: attached =>
            let (spec, targets) :=
              if attached = [] then (rest.headD [], rest.drop 1) else (attached, rest)
            match signalNumber? spec with
            | some number =>
              send number (if targets.head? = some ['-', '-'] then targets.drop 1 else targets)
            | none =>
              if rest = [] && attached = [] then Action.fault "No arg for -s option".toList
              else Action.fault ("invalid signal number or name: ".toList ++ spec)
          | c :: _ => Action.fault ("Illegal option -".toList ++ [c])
          | [] => usage
    | _ => send 15 arguments

end Builtin

end Shell

end TcpJournal
