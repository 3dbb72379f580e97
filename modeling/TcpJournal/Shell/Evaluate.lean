import TcpJournal.Shell.Inner
import TcpJournal.Shell.Proposition

/-!
# Running commands

One step of a command is written over a runner for the commands inside it; the
runner of a depth is the step over the runner of the depth below.
-/

namespace TcpJournal

namespace Shell

namespace Evaluate

/-- How deep functions call one another. -/
def callDepth : Nat := 1000

/-- Call a function: it has arguments, local variables and loops of its own. -/
def callFunction (run : Runner) (mode : Mode) (name : Chars) (body : Command)
    (arguments : List Chars) : Action Unit := do
  let before ← get
  if before.functionDepth ≥ callDepth then
    Action.fault ("Maximum function recursion depth (".toList ++ Decimal.digits callDepth ++
      ") reached".toList)
  set
    { before with
      arguments
      hidden := []
      optionIndex := 1
      optionOffset := 0
      functionDepth := before.functionDepth + 1
      functionNames := name :: before.functionNames
      loopDepth := 0 }
  let result ← Action.attempt (run mode.followed body)
  let returned : Except Jump Unit := match result with
    | .error .returned => .ok ()
    | result => result
  if let .ok () := returned then runOwnTrap run 1003 'T'
  modify fun p =>
    let restored := p.hidden.foldl
      (fun (p : Process) (name, v) => match v with
        | some v => p.bind name v
        | none => p.unbind name) p
    { restored with
      arguments := before.arguments
      hidden := before.hidden
      optionIndex := before.optionIndex
      optionOffset := before.optionOffset
      functionDepth := before.functionDepth
      functionNames := before.functionNames
      loopDepth := before.loopDepth }
  match returned with
  | .ok () => return ()
  | .error jump => throw jump

/-- What kind of command a name is. -/
inductive CommandKind where
  | special
  | function (body : Command)
  | inner
  | program

/-- The kind of the command of a name; functions may be passed over. -/
def commandKind (p : Process) (skipsFunctions : Bool) (name : Chars) : CommandKind :=
  let isInner : Bool := match p.dialect with
    | .plain => Builtin.isInner name
    | .extended => Builtin.extendedNames.any fun n => n.toList = name
  if p.dialect = .plain && specialCommands.contains name then .special
  else
    match if skipsFunctions then none else p.functions.lookup name with
    | some body => .function body
    | none => if isInner then .inner else .program

/-- The commands that take assignments as arguments in a language. -/
def takesAssignments (dialect : Dialect) (name : Chars) : Bool :=
  assigningCommands.contains name &&
    (dialect = .extended || !(["declare", "typeset"].any fun n => n.toList = name))

/-- The commands that may stand in front of a command of the shell. -/
def frontCommands (dialect : Dialect) : List Chars :=
  ((if dialect = .plain then ["command"] else ["command", "builtin"])).map String.toList

/-- The fields of a command, with the lists that are assigned by its arguments.  Some
commands take assignments as arguments; the command may come from a later word. -/
def commandFields (run : Runner) :
    List Word → List Chars → List Assignment → Action (List Chars × List Assignment)
  | [], before, lists => return (before, lists)
  | word :: rest, before, lists => do
    let dialect := (← get).dialect
    let name := match before with
      | first :: second :: _ => if (frontCommands dialect).contains first then second else first
      | [first] => first
      | [] => []
    match if takesAssignments dialect name then Assignment.ofWord? dialect word else none with
    | some a =>
      match a.value with
      | [.list _] => commandFields run rest (before ++ [a.name]) (lists ++ [a])
      | _ =>
        commandFields run rest (before ++ [← Expansion.assignmentText (substitute run) a]) lists
    | none => commandFields run rest (before ++ (← Expansion.fields (substitute run) word)) lists

/-- Set the variables of assignments in front of a command, passed on to it;
the answer is what they were before. -/
def assignAll (run : Runner) (isPassedOn : Bool) :
    List Word → Action (List (Chars × Option Variable) × List Chars)
  | [] => return ([], [])
  | word :: rest => do
    let p ← get
    match Assignment.ofWord? p.dialect word with
    | none => assignAll run isPassedOn rest
    | some a =>
      let before := p.binding? a.name
      let isKept : Bool := isPassedOn && p.dialect = .extended && before.any Variable.isReadOnly
      if isKept then
        Action.warn (a.name ++ ": readonly variable".toList)
        assignAll run isPassedOn rest
      else
        let text ← Expansion.assign (substitute run) a
        if isPassedOn then
          modify fun p =>
            match p.binding? a.name with
            | some v => p.bind a.name { v with isExported := true }
            | none => p
        let (hidden, shown) ← assignAll run isPassedOn rest
        return (hidden ++ [(a.name, before)], text :: shown)

/-- Show a command before it runs, where that is asked for. -/
def trace (descriptors : List (Nat × Nat)) (words : List Chars) : Steps Unit := do
  let p ← get
  if p.has 'x' then
    set { p with descriptors }
    let shown := if p.dialect = .plain then words else words.map tracedWord
    Steps.complain ((p.value? "PS4".toList).getD "+ ".toList ++ [' '].intercalate shown ++ ['\n'])
    modify fun after => { after with descriptors := p.descriptors }
where
  /-- A word as the extended shell shows it. -/
  tracedWord (word : Chars) : Chars :=
    let isPlain (c : Char) : Bool := isNameChar c || "%+,-./:=@^]".toList.contains c
    if word ≠ [] && word.all isPlain then word else Quotation.enclosed word

/-- The word behind a command that stands in front of others and its options, if it
is to be run. -/
def behindCommand (dialect : Dialect) (fields : List Chars) : Option (List Chars) :=
  match fields with
  | name :: rest =>
    if !(frontCommands dialect).contains name then none
    else
      let rest := if rest.head? = some ['-', 'p'] then rest.drop 1 else rest
      let rest := if rest.head? = some ['-', '-'] then rest.drop 1 else rest
      match rest with
      | word :: _ => if word.head? = some '-' && word.length > 1 then none else some rest
      | [] => none
  | [] => none

/-- Assign the lists among the arguments of a command that declares variables: behind
it, but in front of it what it protects from changes. -/
def assignLists (run : Runner) (name : Chars) (arguments : List Chars) (lists : List Assignment)
    (declares : Action Unit) : Action Unit := do
  if lists.isEmpty then declares
  else
    let options := (arguments.takeWhile fun a => a.head? = some '-').flatMap (·.drop 1)
    let assigns : Action Unit := lists.forM fun a => do
      let _ ← Expansion.assign (substitute run) a
    if options.contains 'A' then
      modify fun p => lists.foldl
        (fun (p : Process) a =>
          if (p.binding? a.name).isSome then p
          else p.bind a.name { Variable.fresh with attributes := ['A'] }) p
    if name = "readonly".toList || options.contains 'r' then
      assigns
      declares
    else
      declares
      assigns

/-- Run a command of words. -/
def simple (run : Runner) (mode : Mode) (line : Nat) (assignments words : List Word)
    (redirections : List Redirection) : Action Unit := do
  modify fun p => { p with line, substitutionStatus := 0 }
  let first ← get
  let (fields', lists) ← commandFields run words [] []
  let before ← get
  let (fields, isPlain) := match behindCommand before.dialect fields' with
    | some inside => (inside, true)
    | none => (fields', false)
  let restoring {α : Type} (body : Action α) : Action α :=
    finally_ body (modify fun p => { p with descriptors := first.descriptors })
  match fields with
  | [] =>
    restoring do
      if ← redirectAll run redirections then
        let (_, shown) ← assignAll run false assignments
        trace before.descriptors shown
        setStatus (← get).substitutionStatus
      else return ()
  | name :: arguments =>
    let isInnerOnly : Bool := isPlain && fields'.head? = some "builtin".toList
    let kind := if isInnerOnly then CommandKind.inner else commandKind before isPlain name
    let isSpecial := !isPlain && (match kind with
      | .special => true
      | _ => false)
    let keepsDescriptors : Bool := name = "exec".toList &&
      replacement before.dialect arguments = []
    let body : Action Unit := do
      if ← redirectAll run redirections then
        let (hidden, shown) ← assignAll run (!isSpecial || name = "exec".toList) assignments
        trace before.descriptors (shown ++ name :: arguments)
        let act : Action Unit :=
          match kind with
          | .function body => callFunction run mode name body arguments
          | .program => runCommandWord run mode name arguments
          | _ =>
            match inner? run mode before.dialect (String.ofList name) with
            | some command =>
              assignLists run name arguments lists (runInner command isSpecial name arguments)
            | none => do
              Action.warn (name ++ ": not a shell builtin".toList)
              setStatus 1
        if isSpecial then act
        else
          finally_ act <| modify fun p =>
            hidden.foldl
              (fun (p : Process) (name, v) => match v with
                | some v => p.bind name v
                | none => p.unbind name) p
      else if isSpecial then throw .fault
      else return ()
    if keepsDescriptors then body else restoring body

/-- Run a round of a loop; the answer says whether the loop goes on. -/
def round (body : Action Unit) : Action Bool := do
  let result ← Action.attempt body
  match result with
  | .ok () => return true
  | .error (.leaveLoops n) => if n ≤ 1 then return false else throw (.leaveLoops (n - 1))
  | .error (.nextRound n) => if n ≤ 1 then return true else throw (.nextRound (n - 1))
  | .error jump => throw jump

/-- Run a body as long as its condition holds; the status is that of the last
round. -/
def loop (run : Runner) (mode : Mode) (untilTrue : Bool) (condition body : Command) :
    Nat → Nat → Action Unit
  | 0, status => setStatus status
  | fuel + 1, status => do
    let goesOn ← round (run .tested condition)
    if !goesOn then setStatus status
    else if ((← get).status = 0) = untilTrue then setStatus status
    else
      let goesOn ← round (run mode body)
      let status := (← get).status
      if goesOn then loop run mode untilTrue condition body fuel status else setStatus status

/-- Run a body for each of some texts; the status is that of the last round. -/
def forEach (run : Runner) (mode : Mode) (name : Chars) (body : Command) :
    List Chars → Action Unit
  | [] => return ()
  | text :: rest => do
    match ← Action.attempt (Action.assign name text) with
    | .ok () =>
      if ← round (run mode body) then forEach run mode name body rest else return ()
    | .error jump => if (← get).dialect = .plain then throw jump else return ()

/-- Run a body as long as an expression has another value than zero, and another
expression behind each round. -/
def count (run : Runner) (mode : Mode) (goal next : Word) (body : Command) :
    Nat → Nat → Action Unit
  | 0, status => setStatus status
  | fuel + 1, status => do
    let isReached ← if goal.isEmpty then pure false else do
      let value ← calculated run goal
      pure (value = 0)
    if isReached then setStatus status
    else
      Action.tick
      let goesOn ← round (run mode body)
      let status := (← get).status
      if goesOn then
        if !next.isEmpty then
          let _ ← calculated run next
        count run mode goal next body fuel status
      else setStatus status

/-- Run a loop that counts; an error in one of its expressions ends it. -/
def countedLoop (run : Runner) (mode : Mode) (start goal next : Word) (body : Command) :
    Action Unit := do
  let isBlankText (part : Part) : Bool := match part with
    | .text content _ => content.all isBlankChar
    | _ => false
  let trimmed (word : Word) : Word := if word.all isBlankText then [] else word
  let steps := (← get).world.steps
  let all : Action Unit := do
    if !(trimmed start).isEmpty then
      let _ ← calculated run start
    count run mode (trimmed goal) (trimmed next) body (steps + 1) 0
  match ← Action.attempt all with
  | .error .fault => setStatus 1
  | .error jump => throw jump
  | .ok () => return ()

/-- Something inside a loop. -/
def inLoop (body : Action Unit) : Action Unit := do
  let before ← get
  set { before with loopDepth := before.loopDepth + 1 }
  finally_ body (modify fun p => { p with loopDepth := before.loopDepth })

/-- The first of some patterns that matches a text. -/
def matchesSome (run : Runner) (text : Chars) : List Word → Action Bool
  | [] => return false
  | word :: rest => do
    let pattern ← Expansion.pattern (substitute run) word
    if Glob.matchesAll pattern text then return true else matchesSome run text rest

/-- Run the first clause with a pattern that matches. -/
def choose (run : Runner) (mode : Mode) (text : Chars) :
    List (List Word × Command) → Action Unit
  | [] => setStatus 0
  | (patterns, body) :: rest => do
    if ← matchesSome run text patterns then
      match body with
      | .nothing => setStatus 0
      | body => run mode body
    else choose run mode text rest

/-- The part of the steps that a pipe keeps for the commands behind it. -/
def reservedPart : Nat := 32

/-- The last command of a pipe; in the extended shell a choice keeps it in the
shell itself. -/
def lastMember (run : Runner) (mode : Mode) (input : Option Nat) (last : Command) :
    Action Unit := do
  if (← get).hasNamed "lastpipe" then
    restoringDescriptors do
      if let some index := input then setDescriptor 0 (some index)
      run mode.followed last
  else
    let ending ← inChild run do
      if let some index := input then setDescriptor 0 (some index)
      run ⟨mode.isTested, true⟩ last
    keepEnding ending

/-- Run commands joined by pipes from left to right; each but the last leaves a
part of the steps to those behind it.  The answer is their statuses. -/
def members (run : Runner) (mode : Mode) (input : Option Nat) :
    List Command → Action (List Nat)
  | [] => return []
  | [last] => do
    lastMember run mode input last
    return [(← get).status]
  | first :: rest => do
    let (index, p) := (← get).addStream (.pipe [] [])
    let reserved := p.world.steps / reservedPart
    set { p with world := { p.world with steps := p.world.steps - reserved } }
    let ending ← inChild run do
      if let some index := input then setDescriptor 0 (some index)
      setDescriptor 1 (some index)
      run ⟨mode.isTested, true⟩ first
    modify fun p =>
      { p with world := { p.world with steps := reserved + p.world.steps } }
    reportEnding ending
    return ending.status :: (← members run mode (some index) rest)

/-- Run commands joined by pipes.  The status is that of the last one, or by an option
of the extended shell that of the last one that failed. -/
def pipeline (run : Runner) (mode : Mode) (commands : List Command) : Action Unit := do
  let statuses ← members run mode none commands
  let p ← get
  let failed? := if p.has '\x01' then (statuses.reverse.find? (· ≠ 0)) else none
  set { p with memberEndings := statuses, status := failed?.getD p.status }

/-- The commands of a sequence from left to right. -/
def inSequence : Command → List Command
  | .sequence left right => inSequence left ++ inSequence right
  | c => [c]

/-- Run commands one after another. -/
def runSequence (run : Runner) (mode : Mode) : List Command → Action Unit
  | [] => return ()
  | [last] => run mode last
  | first :: rest => do
    run mode.followed first
    runSequence run mode rest

/-- The status of a command counts where an error ends the shell. -/
def countsAsError : Command → Bool
  | .simple .. | .subshell _ | .pipeline _ | .proposition _ | .calculation _ => true
  | _ => false

/-- The command runs alone, so that its status is that of all members of its pipe. -/
def isAlone : Command → Bool
  | .simple .. | .subshell _ | .proposition _ | .calculation _ => true
  | _ => false

/-- Run what a command is made of. -/
def parts (run : Runner) (mode : Mode) (command : Command) : Action Unit := do
  match command with
  | .nothing => return ()
  | .simple line assignments words redirections =>
    simple run mode line assignments words redirections
  | .pipeline commands => pipeline run mode commands
  | .both left right =>
    run .tested left
    if (← get).status = 0 then run mode right else return ()
  | .either left right =>
    run .tested left
    if (← get).status = 0 then return () else run mode right
  | .sequence left right => runSequence run mode (inSequence (.sequence left right))
  | .negated body =>
    run .tested body
    modify fun p => { p with status := if p.status = 0 then 1 else 0 }
  | .background body => background body
  | .subshell body =>
    if mode.isLast && (← get).traps = [] then run mode body
    else keepEnding (← inChild run (run ⟨mode.isTested, true⟩ body))
  | .redirected body redirections =>
    restoringDescriptors do
      if ← redirectAll run redirections then run mode.followed body else return ()
  | .branch condition consequence alternative =>
    run .tested condition
    if (← get).status = 0 then run mode consequence
    else
      match alternative with
      | .nothing => setStatus 0
      | alternative => run mode alternative
  | .loop untilTrue condition body =>
    let steps := (← get).world.steps
    inLoop (loop run mode.followed untilTrue condition body (steps + 1) 0)
  | .forEach name words body =>
    let texts ← Expansion.allFields (substitute run) words
    if texts = [] then setStatus 0
    else inLoop (forEach run mode.followed name body texts)
  | .countedLoop start goal next body =>
    inLoop (countedLoop run mode.followed start goal next body)
  | .choice subject clauses =>
    let text ← Expansion.text (substitute run) subject
    choose run mode text clauses
  | .define name body =>
    modify fun p =>
      let others := p.functions.filter fun entry => entry.1 ≠ name
      { p with functions := (name, body) :: others, status := 0 }
  | .proposition condition => setStatus (← propositionStatus run condition)
  | .calculation expression => setStatus (← calculationStatus run expression)

/-- Run a command over a runner for the commands inside it. -/
def step (run : Runner) (mode : Mode) (command : Command) : Action Unit := do
  Action.tick
  receiveAll run
  let p ← get
  if p.has 'n' then return ()
  else
    if isAlone command then runOwnTrap run 1002 'T'
    parts run mode command
    receiveAll run
    if isAlone command then modify fun p => { p with memberEndings := [p.status] }
    let p ← get
    let isError : Bool := countsAsError command && !mode.isTested && p.status ≠ 0
    if isError then runOwnTrap run 1001 'E'
    if (isError && p.has 'e') || mode.isLast then throw .exit

/-- The runner of a depth; a command that goes deeper ends its process. -/
def runner : Nat → Runner
  | 0 => fun _ _ => throw (.ended (.signal 11))
  | depth + 1 => step (runner depth)

end Evaluate

end Shell

end TcpJournal
