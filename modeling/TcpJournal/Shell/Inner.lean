import TcpJournal.Shell.Start

/-!
# Commands inside the shell

The tables of the commands that a shell runs itself.  Those that run texts, leave
loops, functions or the shell, or wait for children need the runner of commands
and stand here; the others come from modules of their own.  An error in a command
of the extended shell sets the status and has no further consequences.
-/

namespace TcpJournal

namespace Shell

namespace Evaluate

/-- Report what a print found wrong, and answer the status. -/
def printStatus (result : Print) : Action Nat := do
  let written ← Steps.print result.written.reverse
  if !written then Action.warn "printf: I/O error".toList
  let reports := if result.isFaulty then result.reports.dropLast else result.reports
  reports.forM fun reason => Action.warn reason
  if result.isFaulty then Action.fault (result.reports.getLast?.getD [])
  else return if written && result.reports = [] then 0 else 1

/-- The status that an argument asks for. -/
def askedStatus (arguments : List Chars) (default_ : Nat) : Action Nat :=
  match arguments with
  | [] => return default_
  | word :: _ => argumentNumber word

/-- Leave loops or go to the next round of one. -/
def leaveLoops (isNextRound : Bool) (arguments : List Chars) : Action Nat := do
  let count ← askedStatus arguments 1
  if count = 0 then Action.fault ("Illegal number: ".toList ++ arguments.headD [])
  else
    setStatus 0
    let count := min count (← get).loopDepth
    if count = 0 then return 0
    else throw (if isNextRound then .nextRound count else .leaveLoops count)

/-- Wait for children in the background. -/
def waitFor (run : Runner) (arguments : List Chars) : Action Nat := do
  waitAll run
  match arguments with
  | [] =>
    modify fun p => { p with jobs := [] }
    return 0
  | words =>
    let results ← words.mapM fun word => do
      let p ← get
      let job? ← match word with
        | '%' :: name => some <$> Builtin.jobNamed name
        | word =>
          let id ← argumentNumber word
          pure (p.jobs.find? fun job => job.id = id)
      return ((job?.bind Job.ending).map Ending.status).getD 127
    return results.getLast?.getD 0

/-- Run the commands of a file in the shell itself. -/
def runFile (run : Runner) (arguments : List Chars) : Action Nat := do
  match arguments with
  | [] => return 0
  | name :: rest =>
    let p ← get
    let path := if name.contains '/' then name else (Builtin.programPath? p name).getD name
    let isSearched : Bool := path.contains '/' || p.dialect = .extended
    let found ← if isSearched then liftM (Steps.readFile path) else pure (.error .notFound)
    match found with
    | .error .notFound =>
      if name.contains '/' || p.dialect = .extended then redirectionFault false name .notFound
      else Action.fault (name ++ ": not found".toList)
    | .error e => redirectionFault false name e
    | .ok text =>
      if rest ≠ [] then modify fun p => { p with arguments := rest }
      let isExtended : Bool := p.dialect = .extended
      if isExtended then
        modify fun p => { p with functionNames := "source".toList :: p.functionNames }
      let result ← Action.attempt (runText run .plain text)
      if isExtended then
        modify fun after =>
          { after with
            functionNames := p.functionNames
            arguments := if rest = [] then after.arguments else p.arguments }
      match result with
      | .ok () | .error .returned => return (← get).status
      | .error jump => throw jump

/-- The command that takes the place of the shell, behind the options that change how
it is started. -/
def replacement (dialect : Dialect) : List Chars → List Chars
  | ['-', '-'] :: words => words
  | ['-', 'a'] :: name :: words =>
    if dialect = .plain then ['-', 'a'] :: name :: words else replacement dialect words
  | ['-', 'c'] :: words =>
    if dialect = .plain then ['-', 'c'] :: words else replacement dialect words
  | ['-', 'l'] :: words =>
    if dialect = .plain then ['-', 'l'] :: words else replacement dialect words
  | words => words

/-- Take the place of the shell. -/
def replaceShell (run : Runner) (arguments : List Chars) : Action Nat := do
  let p ← get
  match replacement p.dialect arguments with
  | [] => return 0
  | name :: words =>
    match ← runProgram run programDepth (some p.id) name words with
    | .ok ending => throw (.ended ending)
    | .error e =>
      let (reason, status) := startFailure p name e
      Action.warn (name ++ ": ".toList ++ reason.toList)
      setStatus status
      throw .exit

/-- Send signals as a command does, and meet at once those that end the shell. -/
def killing (run : Runner) (command : List Chars → Action Nat) (arguments : List Chars) :
    Action Nat := do
  let status ← command arguments
  if (fatalSignal? (← get)).isSome then receiveAll run
  return status

/-- The command of a name inside the plain shell. -/
def plainInner? (run : Runner) (mode : Mode) (name : String) :
    Option (List Chars → Action Nat) :=
  match name with
  | ":" | "true" => some fun _ => return 0
  | "false" => some fun _ => return 1
  | "." => some (runFile run)
  | "[" => some fun arguments => do
    if arguments.getLast? = some [']'] then condition arguments.dropLast
    else Action.fault "missing ]".toList
  | "alias" => some Builtin.alias_
  | "bg" | "fg" => some fun _ => Action.fault "No current job".toList
  | "break" => some (leaveLoops false)
  | "cd" | "chdir" => some Builtin.changeDirectory
  | "command" => some fun arguments => do
    let (options, names) ← leadingOptions ['p', 'v', 'V'] arguments
    if names = [] then return 0 else Builtin.describe (options.contains 'V') names
  | "continue" => some (leaveLoops true)
  | "echo" => some fun arguments => do
    if ← Steps.print (echoText arguments) then return 0
    else
      Action.warn "echo: I/O error".toList
      return 1
  | "eval" => some fun arguments => do
    let words := if arguments.head? = some ['-', '-'] then arguments.drop 1 else arguments
    runText run mode.followed ([' '].intercalate words)
    return (← get).status
  | "exec" => some (replaceShell run)
  | "exit" => some fun arguments => do
    let p ← get
    setStatus (← askedStatus arguments (p.trapStatus.getD p.status))
    throw .exit
  | "export" => some Builtin.export_
  | "getopts" => some Builtin.getOptions
  | "hash" => some Builtin.findPrograms
  | "jobs" => some fun arguments => do
    let (_, words) ← leadingOptions ['l', 'p'] arguments
    words.forM fun word => do
      match word with
      | '%' :: name => discard (Builtin.jobNamed name)
      | _ => Action.fault ("No such job: ".toList ++ word)
    return 0
  | "kill" => some (killing run Builtin.kill)
  | "local" => some Builtin.local_
  | "printf" => some fun arguments => do
    let (_, words) ← leadingOptions [] arguments
    match words with
    | [] => Action.fault "usage: printf format [arg ...]".toList
    | format :: words => printStatus (Print.run .inner format words)
  | "pwd" => some fun _ => Builtin.showDirectory
  | "read" => some Builtin.read
  | "readonly" => some Builtin.readOnly
  | "return" => some fun arguments => do
    setStatus (← askedStatus arguments (← get).status)
    throw .returned
  | "set" => some Builtin.set_
  | "shift" => some Builtin.shift
  | "test" => some condition
  | "times" => some fun _ => do
    let _ ← Steps.print "0m0.000000s 0m0.000000s\n0m0.000000s 0m0.000000s\n".toList
    return 0
  | "trap" => some Builtin.trap
  | "type" => some (Builtin.describe true)
  | "ulimit" => some Builtin.limits
  | "umask" => some Builtin.mask
  | "unalias" => some Builtin.unalias
  | "unset" => some Builtin.unset
  | "wait" => some (waitFor run)
  | _ => none
where
  /-- The status of a condition. -/
  condition (words : List Chars) : Action Nat := do
    match Condition.holds (← get) (words.length + 2) words with
    | .ok b => return if b then 0 else 1
    | .error reason => Action.fault reason

/-- The whole number that an argument is. -/
def wholeNumber? (text : Chars) : Option Int :=
  let (negative, rest) := leadingSign (text.dropWhile isBlankChar)
  let digits := rest.takeWhile Text.isDigit
  if digits ≠ [] && (rest.drop digits.length).all isBlankChar then
    some (if negative then -(Decimal.value digits : Int) else Decimal.value digits)
  else none

/-- The status that the arguments of a command ask for where it ends something: the
number modulo 256, and another status for what is no number. -/
def endingStatus (arguments : List Chars) (default_ : Nat) : Action Nat := do
  match if arguments.head? = some ['-', '-'] then arguments.drop 1 else arguments with
  | [] => return default_
  | word :: _ =>
    match wholeNumber? word with
    | some n => return (n % 256).toNat
    | none =>
      Action.warn (word ++ ": numeric argument required".toList)
      return 2

/-- Leave loops or go to the next round of one, in the extended shell. -/
def leaveExtendedLoops (isNextRound : Bool) (arguments : List Chars) : Action Nat := do
  let p ← get
  if p.loopDepth = 0 then
    Action.warn "only meaningful in a loop".toList
    return 0
  else
    match (arguments.head?.map wholeNumber?).getD (some 1) with
    | none =>
      Action.warn (arguments.headD [] ++ ": numeric argument required".toList)
      setStatus 128
      throw .exit
    | some n =>
      if n ≤ 0 then
        Action.warn (arguments.headD [] ++ ": loop count out of range".toList)
        setStatus 1
        throw (.leaveLoops p.loopDepth)
      else
        setStatus 0
        let count := min n.toNat p.loopDepth
        throw (if isNextRound then .nextRound count else .leaveLoops count)

/-- Drop the first arguments in the extended shell. -/
def shiftExtended (arguments : List Chars) : Action Nat := do
  match (arguments.head?.map wholeNumber?).getD (some 1) with
  | none => Action.fault (arguments.headD [] ++ ": numeric argument required".toList)
  | some n =>
    let p ← get
    if n < 0 then Action.fault (arguments.headD [] ++ ": shift count out of range".toList)
    else if n.toNat > p.arguments.length then return 1
    else
      set { p with arguments := p.arguments.drop n.toNat }
      return 0

/-- The command of a name inside the extended shell, where it is not that of the
plain one. -/
def extendedInner? (run : Runner) (name : String) : Option (List Chars → Action Nat) :=
  match name with
  | "." | "source" => some fun arguments => do
    if arguments = [] then
      Action.warn "filename argument required".toList
      return 2
    else runFile run arguments
  | "[" => some fun arguments => do
    if arguments.getLast? = some [']'] then Builtin.testStatus arguments.dropLast
    else
      Action.warn "missing ']'".toList
      return 2
  | "test" => some Builtin.testStatus
  | "break" => some (leaveExtendedLoops false)
  | "continue" => some (leaveExtendedLoops true)
  | "command" => some fun arguments => do
    let options := (arguments.takeWhile fun a => a.head? = some '-').flatMap (·.drop 1)
    let names := arguments.dropWhile fun a => a.head? = some '-'
    if names = [] then return 0
    else Builtin.describeExtended (if options.contains 'V' then 'w' else 'v') false names
  | "declare" | "typeset" => some (Builtin.declare "declare" [])
  | "local" => some (Builtin.declare "local" [])
  | "export" => some (Builtin.declare "export" ['x'])
  | "readonly" => some (Builtin.declare "readonly" ['r'])
  | "unset" => some Builtin.unsetNames
  | "echo" => some fun arguments => do
    if ← Steps.print (extendedEchoText arguments) then return 0
    else
      Action.warn "write error".toList
      return 1
  | "printf" => some Builtin.printFormat
  | "read" => some Builtin.readExtended
  | "mapfile" | "readarray" => some Builtin.readLines
  | "let" => some Builtin.calculate
  | "shopt" => some Builtin.choose
  | "set" => some fun arguments =>
    if arguments = [] then Builtin.showVariables else Builtin.setExtended arguments
  | "trap" => some Builtin.trapExtended
  | "type" => some Builtin.typeExtended
  | "kill" => some (killing run Builtin.killExtended)
  | "exit" => some fun arguments => do
    let p ← get
    setStatus (← endingStatus arguments (p.trapStatus.getD p.status))
    throw .exit
  | "return" => some fun arguments => do
    let p ← get
    if p.functionNames = [] then
      Action.warn "can only return from a function or sourced script".toList
      return 2
    else
      setStatus (← endingStatus arguments p.status)
      throw .returned
  | "shift" => some shiftExtended
  | "pushd" => some (Builtin.changeByStack true)
  | "popd" => some (Builtin.changeByStack false)
  | "dirs" => some fun _ => Builtin.showStack
  | "times" => some fun _ => do
    let _ ← Steps.print "0m0.000s 0m0.000s\n0m0.000s 0m0.000s\n".toList
    return 0
  | "wait" => some fun arguments =>
    waitFor run (arguments.filter fun word => word.head? ≠ some '-')
  | "bind" | "complete" | "compopt" | "enable" | "help" | "history" =>
    some fun _ => return 0
  | "caller" | "compgen" | "disown" | "fc" | "logout" | "suspend" => some fun _ => return 1
  | _ => none

/-- The command of a name inside a shell. -/
def inner? (run : Runner) (mode : Mode) (dialect : Dialect) (name : String) :
    Option (List Chars → Action Nat) :=
  match dialect with
  | .plain => plainInner? run mode name
  | .extended => (extendedInner? run name).orElse fun _ => plainInner? run mode name

/-- Run a command inside the shell.  An error ends the shell only if the
command is a special one. -/
def runInner (command : List Chars → Action Nat) (isSpecial : Bool) (name : Chars)
    (arguments : List Chars) : Action Unit := do
  let before ← get
  set { before with current := some name }
  let result ← Action.attempt (command arguments)
  modify fun p => { p with current := before.current }
  match result with
  | .ok status => setStatus status
  | .error .fault => if isSpecial then throw .fault else return ()
  | .error jump => throw jump

end Evaluate

end Shell

end TcpJournal
