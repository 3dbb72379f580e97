import TcpJournal.Shell.Program
import TcpJournal.Shell.Rules.Token
import TcpJournal.Shell.Rules.Value

/-!
# The machine that carries out rules

A machine holds the variables of a script, the record and its fields, and the
files and commands that it reads from or writes to.  What is printed is kept
until a command starts or the script ends.
-/

namespace TcpJournal

namespace Shell

namespace Rules

/-- What a name stands for; a name that is not used yet may become an array. -/
inductive Binding where
  | scalar (v : Value)
  | array (id : Nat)
  | undecided (id : Nat)
  deriving DecidableEq, Repr

/-- Where redirected output goes: to a stream, or to a command that has not run
yet, with what it will read, last first. -/
inductive Sink where
  | stream (index : Nat)
  | command (written : Chars)
  deriving DecidableEq, Repr

/-- The state of a script. -/
structure Machine where
  script : Script
  globals : List (Chars × Binding)
  locals : List (Chars × Binding)
  arrays : List (Nat × Table)
  nextArray : Nat
  record : Value
  fields : List Value
  printed : Chars
  sinks : List (Chars × Sink)
  sources : List (Chars × Chars)
  statuses : List (Chars × Nat)
  waiting : Option Chars
  nextArgument : Nat
  hasRead : Bool
  openSpans : List Nat
  seed : Value
  status : Nat

/-- Why a statement does not go on. -/
inductive Leap where
  | record
  | file
  | exit
  | loopEnd
  | roundEnd
  | answer (v : Value)
  | failure (reason : Chars)
  | fault (reason : Chars)

/-- What scripts do. -/
abbrev Act := ExceptT Leap (StateT Machine Steps)

/-- A place for a value. -/
inductive Place where
  | name (n : Chars)
  | field (index : Nat)
  | element (array : Nat) (subscript : Chars)
  deriving DecidableEq, Repr

namespace Machine

/-- What a name stands for. -/
def binding? (m : Machine) (name : Chars) : Option Binding :=
  (m.locals.lookup name).orElse fun _ => m.globals.lookup name

/-- The machine with another meaning of a name. -/
def bind (m : Machine) (name : Chars) (b : Binding) : Machine :=
  let put (bindings : List (Chars × Binding)) : List (Chars × Binding) :=
    (name, b) :: bindings.filter fun entry => entry.1 ≠ name
  if m.locals.any fun entry => entry.1 = name then { m with locals := put m.locals }
  else { m with globals := put m.globals }

/-- The value of a name. -/
def scalar (m : Machine) (name : Chars) : Value :=
  match m.binding? name with
  | some (.scalar v) => v
  | _ => .unset

/-- The machine with a value for a name, wherever it is used. -/
def setScalar (m : Machine) (name : String) (v : Value) : Machine :=
  let name := name.toList
  { m with globals := (name, .scalar v) :: m.globals.filter fun entry => entry.1 ≠ name }

/-- The value of a variable that every script has. -/
def global (m : Machine) (name : String) : Value :=
  match m.globals.lookup name.toList with
  | some (.scalar v) => v
  | _ => .unset

/-- The format in which numbers become texts. -/
def conversion (m : Machine) : Chars :=
  match m.global "CONVFMT" with
  | .text t | .input t => t
  | _ => "%.6g".toList

/-- The text for a value. -/
def textOf (m : Machine) (v : Value) : Chars := v.toText m.conversion

/-- The text of a variable that every script has. -/
def globalText (m : Machine) (name : String) : Chars := m.textOf (m.global name)

/-- The table of an array. -/
def table (m : Machine) (id : Nat) : Table := (m.arrays.lookup id).getD []

/-- The machine with another table for an array. -/
def setTable (m : Machine) (id : Nat) (table : Table) : Machine :=
  { m with arrays := (id, table) :: m.arrays.filter fun entry => entry.1 ≠ id }

/-- The array of a name, which may start to be one here. -/
def array? (m : Machine) (name : Chars) : Option (Nat × Machine) :=
  match m.binding? name with
  | some (.array id) | some (.undecided id) => some (id, m)
  | none | some (.scalar .unset) =>
    let id := m.nextArray
    some (id, { m with nextArray := id + 1 }.bind name (.array id))
  | some (.scalar _) => none

end Machine

/-- Texts between matches of an expression that are not empty. -/
def splitByRegex (r : Regex) (text : Array Char) : Nat → Nat → Nat → List Chars
  | 0, start, _ => [text.toList.drop start]
  | fuel + 1, start, place =>
    match r.search text place with
    | none => [text.toList.drop start]
    | some m =>
      if m.stop = m.start then
        if m.start < text.size then splitByRegex r text fuel start (m.start + 1)
        else [text.toList.drop start]
      else (text.toList.take m.start).drop start :: splitByRegex r text fuel m.stop m.stop

/-- The words of a text between blanks. -/
def blankWords (text : Chars) : List Chars :=
  let isBlank (c : Char) : Bool := c = ' ' || c = '\t' || c = '\n'
  (text.splitBy fun c d => isBlank c = isBlank d).filter fun word => !word.any isBlank

/-- Parts of a text, split at line ends, too, if that is asked for. -/
def splitLines (atLines : Bool) (parts : List Chars) : List Chars :=
  if atLines then
    parts.flatMap fun part =>
      let (last, lines) := part.foldr
        (fun c (line, lines) => if c = '\n' then ([], line :: lines) else (c :: line, lines))
        ([], [])
      last :: lines
  else parts

/-- The parts of a text between separators: a blank stands for any blanks, any
other character for itself, and a longer text for an expression. -/
def splitText (separator : Chars) (atLines : Bool) (text : Chars) : Except Chars (List Chars) :=
  if text = [] then .ok []
  else
    match separator with
    | [' '] => .ok (blankWords text)
    | [] => .ok (text.map fun c => [c])
    | [c] =>
      let (last, parts) := text.foldr
        (fun d (part, parts) => if d = c then ([], part :: parts) else (d :: part, parts)) ([], [])
      .ok (splitLines atLines (last :: parts))
    | pattern => do
      let r ← Regex.parse .pattern pattern
      return splitLines atLines (splitByRegex r text.toArray (text.length + 1) 0 0)

/-- The first record of a text and what follows it: a separator of one
character ends it, none stands for empty lines, and a longer one is an
expression. -/
def firstRecord (separator : Chars) (text : Chars) : Option (Chars × Chars) :=
  match separator with
  | [] =>
    let text := text.dropWhile (· = '\n')
    if text = [] then none
    else
      let stop? := (List.range text.length).find? fun i =>
        text[i]? = some '\n' && (text[i + 1]? = some '\n' || i + 1 = text.length)
      match stop? with
      | none => some (text, [])
      | some i => some (text.take i, (text.drop i).dropWhile (· = '\n'))
  | [c] =>
    if text = [] then none
    else
      let record := text.takeWhile (· ≠ c)
      some (record, text.drop (record.length + 1))
  | pattern =>
    if text = [] then none
    else
      match Regex.parse .pattern pattern with
      | .error _ => some (text, [])
      | .ok r =>
        match r.search text.toArray 0 with
        | none => some (if text.getLast? = some '\n' then text.dropLast else text, [])
        | some m =>
          if m.stop = m.start then some (text, [])
          else some (text.take m.start, text.drop m.stop)

namespace Act

/-- Give up with an error of the script. -/
def fault {α : Type} (reason : Chars) : Act α := throw (.fault reason)

/-- Do a step of the process. -/
def ofSteps {α : Type} (steps : Steps α) : Act α :=
  ExceptT.lift (StateT.lift steps)

/-- How something ends, without its leap. -/
def attempt {α : Type} (body : Act α) : Act (Except Leap α) :=
  ExceptT.lift body.run

/-- One step is taken; when there are none left, the script stops. -/
def tick : Act Unit := do
  let p ← ofSteps get
  if p.world.steps = 0 then throw (.failure "out of time".toList)
  else ofSteps (set { p with world := { p.world with steps := p.world.steps - 1 } })

/-- Write what has been printed so far. -/
def flush : Act Unit := do
  let m ← get
  if m.printed ≠ [] then
    set { m with printed := [] }
    match ← ofSteps (Steps.write 1 m.printed.reverse) with
    | .ok () => return ()
    | .error _ => throw (.failure "write failure".toList)

/-- Keep a text for the standard output. -/
def put (text : Chars) : Act Unit :=
  modify fun m => { m with printed := text.reverse ++ m.printed }

/-- Make a text the record. -/
def setRecord (v : Value) : Act Unit := do
  let m ← get
  let separator := m.globalText "FS"
  let atLines : Bool := m.globalText "RS" = []
  match splitText separator atLines (m.textOf v) with
  | .error _ => throw (.failure "regular expression compile failed".toList)
  | .ok parts =>
    let fields := parts.map Value.input
    set ({ m with record := v, fields }.setScalar "NF" (.ofNat fields.length))

/-- Put fields together to a record. -/
def joinFields (fields : List Value) : Act Unit := do
  let m ← get
  let text := (m.globalText "OFS").intercalate (fields.map m.textOf)
  set ({ m with record := .input text, fields }.setScalar "NF" (.ofNat fields.length))

/-- Fields up to a number. -/
def withFields (fields : List Value) (count : Nat) : List Value :=
  fields.take count ++ List.replicate (count - fields.length) (.input [])

/-- Read a place. -/
def readPlace (place : Place) : Act Value := do
  let m ← get
  match place with
  | .name n =>
    match m.binding? n with
    | some (.array _) => fault ("illegal reference to array ".toList ++ n)
    | _ => return m.scalar n
  | .field 0 => return m.record
  | .field (i + 1) => return (m.fields[i]?).getD (.input [])
  | .element id subscript =>
    let table := m.table id
    match table.lookup subscript with
    | some v => return v
    | none =>
      set (m.setTable id (table.put subscript .unset))
      return .unset

/-- The greatest number of fields. -/
def mostFields : Nat := 32767

/-- Write a place. -/
def writePlace (place : Place) (v : Value) : Act Unit := do
  let m ← get
  match place with
  | .name n =>
    match m.binding? n with
    | some (.array _) => fault ("illegal reference to array ".toList ++ n)
    | _ =>
      set (m.bind n (.scalar v))
      if n = "NF".toList then
        let count := (v.toNumber.whole?.getD 0).toNat
        joinFields (withFields m.fields (min count mostFields))
        modify fun m => m.setScalar "NF" v
  | .field 0 => setRecord v
  | .field (i + 1) =>
    if i ≥ mostFields then fault "field index too large".toList
    else joinFields ((withFields m.fields (max m.fields.length (i + 1))).set i v)
  | .element id subscript => set (m.setTable id ((m.table id).put subscript v))

/-- The array of a name. -/
def array (name : Chars) : Act Nat := do
  match (← get).array? name with
  | some (id, m) =>
    set m
    return id
  | none => fault ("illegal reference to variable ".toList ++ name)

/-- Run a program with an input, and keep what it writes where that is asked for. -/
def runWords (spawn : Spawn) (words : List Chars) (input : Option Chars) (takesOutput : Bool) :
    Steps (Except FileError Ending × Chars) := do
  let before ← get
  let redirect (descriptor : Nat) (s : Stream) : Steps Nat := do
    let (index, p) := (← get).addStream s
    set { p with descriptors := (descriptor, index) ::
            p.descriptors.filter fun d => d.1 ≠ descriptor }
    return index
  if let some text := input then
    let _ ← redirect 0 (.pipe text [])
  let out? ← if takesOutput then some <$> redirect 1 (.pipe [] []) else pure none
  let result ← spawn words
  modify fun p => { p with descriptors := before.descriptors }
  let after ← get
  let text := match out?.bind fun index => after.world.streams[index]? with
    | some (.pipe waiting written) => waiting ++ written.reverse
    | _ => []
  return (result, text)

/-- Run a command of the shell; it may be given an input, and its output may be
taken. -/
def runCommand (spawn : Spawn) (command : Chars) (input : Option Chars) (takesOutput : Bool) :
    Steps (Nat × Chars) := do
  let (result, text) ← runWords spawn ["/bin/sh".toList, "-c".toList, command] input takesOutput
  let status := match result with
    | .ok (.exit status) => status
    | .ok (.signal number) => 256 + number
    | .error _ => 127
  return (status, text)

/-- Write to a file or hand on to a command. -/
def putTo (kind : OutputKind) (name text : Chars) : Act Unit := do
  if name = ['-'] || name = "/dev/stdout".toList then put text
  else
    let m ← get
    match m.sinks.lookup name with
    | some (.command written) =>
      let others := m.sinks.filter fun sink => sink.1 ≠ name
      set { m with sinks := (name, .command (text.reverse ++ written)) :: others }
    | some (.stream index) => writeTo index
    | none =>
      if kind = .command then
        flush
        modify fun m => { m with sinks := (name, .command text.reverse) :: m.sinks }
      else
        let opening : Steps.Opening := if kind = .appended then .appending else .writing
        match ← ofSteps (Steps.openFile opening name) with
        | .error e =>
          throw (.failure ("cannot open \"".toList ++ name ++ "\" for output (".toList ++
            e.message.toList ++ [')']))
        | .ok index =>
          modify fun m => { m with sinks := (name, .stream index) :: m.sinks }
          writeTo index
where
  /-- Write to a stream. -/
  writeTo (index : Nat) : Act Unit := do
    let p ← ofSteps get
    match p.world.streams[index]? with
    | none => return ()
    | some s =>
      match s.write text p.world.files with
      | .error _ => throw (.failure "write failure".toList)
      | .ok (s, files) =>
        let p := p.setStream index s
        ofSteps (set { p with world := { p.world with files } })

/-- Close a file or command; the answer is its status. -/
def close (spawn : Spawn) (name : Chars) : Act Int := do
  let m ← get
  let source? := m.sources.lookup name
  let status := ((m.statuses.lookup name).getD 0 : Nat)
  set
    { m with
      sources := m.sources.filter fun s => s.1 ≠ name
      statuses := m.statuses.filter fun s => s.1 ≠ name
      sinks := m.sinks.filter fun s => s.1 ≠ name }
  match m.sinks.lookup name with
  | some (.command written) =>
    let (status, _) ← ofSteps (runCommand spawn name (some written.reverse) false)
    return status
  | some (.stream _) => return 0
  | none => return if source?.isSome then status else -1

/-- Close everything and write what has been printed. -/
def closeAll (spawn : Spawn) : Act Unit := do
  (← get).sinks.reverse.forM fun (name, _) => do
    let _ ← close spawn name
  flush

/-- The next record of a file or command; none at its end. -/
def nextFrom (spawn : Spawn) (source : RecordSource) (name : Chars) :
    Act (Except FileError (Option Chars)) := do
  let m ← get
  let text ← match m.sources.lookup name with
    | some text => pure (.ok text)
    | none =>
      if source = .command then
        flush
        let (status, text) ← ofSteps (runCommand spawn name none true)
        modify fun m => { m with statuses := (name, status) :: m.statuses }
        pure (.ok text)
      else if name = ['-'] || name = "/dev/stdin".toList then ofSteps (Steps.read 0 none)
      else ofSteps (Steps.readFile name)
  match text with
  | .error e => return .error e
  | .ok text =>
    let m ← get
    let found := firstRecord (m.globalText "RS") text
    let rest := match found with
      | some (_, rest) => rest
      | none => []
    set { m with sources := (name, rest) :: m.sources.filter fun s => s.1 ≠ name }
    return .ok (found.map Prod.fst)

/-- Set a variable as an argument of the program asks for. -/
def assignArgument (argument : Chars) : Act Unit := do
  let name := argument.takeWhile (· ≠ '=')
  let text := argument.drop (name.length + 1)
  let word := String.ofList name
  if (← get).script.reserved.contains name || Token.keywords.contains word ||
      Token.builtins.contains word then
    fault ("cannot command line assign to ".toList ++ name ++ "\n\ttype clash or keyword".toList)
  writePlace (.name name) (.input (Scan.unescaped (text.length + 1) text))

/-- An argument that sets a variable. -/
def isAssignmentArgument (argument : Chars) : Bool :=
  argument.contains '=' && isName (argument.takeWhile (· ≠ '='))

/-- Open an input. -/
def openMain (name : Chars) : Act Unit := do
  let text ← if name = ['-'] || name = "/dev/stdin".toList then ofSteps (Steps.read 0 none)
    else ofSteps (Steps.readFile name)
  match text with
  | .ok text =>
    modify fun m =>
      { m with waiting := some text, hasRead := true }.setScalar "FILENAME" (.text name)
        |>.setScalar "FNR" (.ofNat 0)
  | .error .isDirectory => throw (.failure "read error (Is a directory)".toList)
  | .error e =>
    throw (.failure ("cannot open \"".toList ++ name ++ "\" (".toList ++ e.message.toList ++ [')']))

/-- The next record of the inputs; none at their end. -/
def nextMain : Nat → Act (Option Chars)
  | 0 => return none
  | fuel + 1 => do
    let m ← get
    match m.waiting with
    | some text =>
      match firstRecord (m.globalText "RS") text with
      | some (record, rest) =>
        let count (name : String) (m : Machine) : Machine :=
          m.setScalar name (.number ((m.global name).toNumber.add (.ofInt 1)))
        set (count "NR" (count "FNR" { m with waiting := some rest }))
        return some record
      | none =>
        set { m with waiting := none }
        nextMain fuel
    | none =>
      let count := ((m.global "ARGC").toNumber.whole?.getD 0).toNat
      if m.nextArgument < count then
        set { m with nextArgument := m.nextArgument + 1 }
        let table := match m.array? "ARGV".toList with
          | some (id, m) => m.table id
          | none => []
        let argument := m.textOf ((table.lookup (Decimal.digits m.nextArgument)).getD .unset)
        if argument = [] then pure ()
        else if isAssignmentArgument argument then assignArgument argument
        else openMain argument
        nextMain fuel
      else if m.hasRead then return none
      else
        openMain ['-']
        nextMain fuel

/-- The next record of the inputs. -/
def nextRecord : Act (Option Chars) := do
  let m ← get
  let count := ((m.global "ARGC").toNumber.whole?.getD 0).toNat
  nextMain (2 * count + 4)

end Act

end Rules

end Shell

end TcpJournal
