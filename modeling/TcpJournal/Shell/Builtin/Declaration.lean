import TcpJournal.Shell.Builtin.Variables

/-!
# Declarations

The commands of the extended shell that declare variables: as lists, as numbers,
as texts of one case, as local to a function, passed on to programs or protected
from changes; those that list declarations, and the one that takes them back.
-/

namespace TcpJournal

namespace Shell

namespace Builtin

/-- The options of a declaration: letters that are set, letters that are taken
back, and the arguments behind them. -/
structure DeclarationOptions where
  marks : List Char
  unmarks : List Char
  arguments : List Chars
  deriving DecidableEq, Repr

/-- The letters of the options of a declaration. -/
def declarationLetters : List Char := "aAfFgiIlnprtux".toList

/-- The options in front of the arguments of a declaration. -/
def declarationOptions : List Chars → Except Char DeclarationOptions
  | [] => .ok ⟨[], [], []⟩
  | argument :: rest =>
    match argument with
    | ['-', '-'] => .ok ⟨[], [], rest⟩
    | sign :: c :: letters =>
      if sign = '-' || sign = '+' then
        match (c :: letters).find? fun d => !declarationLetters.contains d with
        | some unknown => .error unknown
        | none =>
          (declarationOptions rest).map fun o =>
            if sign = '-' then { o with marks := c :: letters ++ o.marks }
            else { o with unmarks := c :: letters ++ o.unmarks }
      else .ok ⟨[], [], argument :: rest⟩
    | _ => .ok ⟨[], [], argument :: rest⟩

/-- A variable with the marks of a declaration. -/
def declaredVariable (marks unmarks : List Char) (v : Variable) : Variable :=
  let kept := v.attributes.filter fun c => !unmarks.contains c
  let added := marks.filter fun c => "aAilu".toList.contains c && !kept.contains c
  let elements := match v.elements with
    | some e => some e
    | none =>
      if marks.contains 'A' then some (Elements.none true)
      else if marks.contains 'a' then some (Elements.ofTexts v.value.toList)
      else none
  { v with
    attributes := kept ++ added
    elements
    value := if elements.isSome then none else v.value
    isExported := (v.isExported || marks.contains 'x') && !unmarks.contains 'x'
    isReadOnly := v.isReadOnly || marks.contains 'r' }

/-- Keep a variable for the time behind the current function, and start it afresh. -/
def hideVariable (name : Chars) : Steps Unit :=
  modify fun p =>
    if p.hidden.any fun entry => entry.1 = name then p
    else
      let isExported := (p.binding? name).any Variable.isExported
      let p' : Process := { p with hidden := (name, p.binding? name) :: p.hidden }
      p'.bind name { Variable.fresh with isExported }

/-- The text by which the value of a variable is declared, if it has one. -/
def declaredValue (v : Variable) : Chars :=
  match v.elements with
  | some e =>
    let shown (entry : Chars × Chars) : Chars :=
      '[' :: entry.1 ++ ']' :: '=' :: Quotation.declared entry.2
    let inner := [' '].intercalate (e.entries.map shown)
    '=' :: '(' :: inner ++ (if e.isKeyed && e.entries ≠ [] then [' ', ')'] else [')'])
  | none =>
    match v.value with
    | some text => '=' :: Quotation.declared text
    | none => []

/-- The line that declares a variable. -/
def declarationLine (name : Chars) (v : Variable) : Chars :=
  let letters := v.letters
  "declare -".toList ++ (if letters = [] then ['-'] else letters) ++ ' ' :: name ++
    declaredValue v ++ ['\n']

/-- List the declarations of a kind. -/
def listDeclarations (holds : Variable → Bool) : Action Nat := do
  let lines := (sortedBindings (← get)).filter (holds ·.2) |>.map fun (name, v) =>
    declarationLine name v
  let _ ← Steps.print lines.flatten
  return 0

/-- Declare one variable, with a value where one is given. -/
def declareOne (command : String) (o : DeclarationOptions) (isLocal : Bool) (argument : Chars) :
    Action Nat := do
  let name := argument.takeWhile isNameChar
  let after := argument.drop name.length
  let (subscript?, after) : Option Chars × Chars :=
    match after with
    | '[' :: inside =>
      let subscript := inside.takeWhile (· ≠ ']')
      (some subscript, inside.drop (subscript.length + 1))
    | after => (none, after)
  let value? : Option (Bool × Chars) :=
    match after with
    | '=' :: value => some (false, value)
    | '+' :: '=' :: value => some (true, value)
    | _ => none
  if !isName name || (after ≠ [] && value?.isNone) then
    Action.warn (command.toList ++ ": '".toList ++ argument ++
      "': not a valid identifier".toList)
    return 1
  else
    if isLocal then hideVariable name
    let before := ((← get).binding? name).getD .fresh
    if before.isReadOnly && value?.isSome then
      Action.warn (name ++ ": readonly variable".toList)
      return 1
    else
      let marks := o.marks.filter (· ≠ 'r')
      let marks := if subscript?.isSome && !marks.contains 'A' then 'a' :: marks else marks
      modify fun p => p.bind name (declaredVariable marks o.unmarks before)
      match value? with
      | none => pure ()
      | some (appends, value) =>
        let v := ((← get).binding? name).getD .fresh
        match subscript? with
        | some subscript =>
          let key ← keyOf name subscript
          let old? := (elementsOf (← get) name).find? key
          assignElement name key (← Expansion.takenText v old? appends value)
        | none =>
          let old? := (← get).value? name
          Action.assign name (← Expansion.takenText v old? appends value)
      if o.marks.contains 'r' then
        modify fun p => p.bind name { (p.binding? name).getD .fresh with isReadOnly := true }
      return 0

/-- Declare variables or list what is declared. -/
def declare (command : String) (forced : List Char) (arguments : List Chars) : Action Nat := do
  let p ← get
  match declarationOptions arguments with
  | .error letter =>
    Action.warn ('-' :: letter :: ": invalid option".toList)
    return 2
  | .ok o =>
    let isLocal : Bool := command = "local" ||
      (command = "declare" && p.functionDepth > 0 && !o.marks.contains 'g')
    let o := { o with marks := forced ++ o.marks, unmarks := if command = "export" &&
      o.marks.contains 'n' then 'x' :: o.unmarks else o.unmarks }
    if command = "local" && p.functionDepth = 0 then
      Action.warn "can only be used in a function".toList
      return 1
    else if o.marks.contains 'f' || o.marks.contains 'F' then
      let known := p.functions.map Prod.fst
      let names := if o.arguments = [] then known.mergeSort Glob.textLE else o.arguments
      if o.marks.contains 'F' then
        let start := if o.arguments = [] then "declare -f ".toList else []
        let shown := names.filter known.contains
        let _ ← Steps.print (shown.flatMap fun name => start ++ name ++ ['\n'])
      return if names.all known.contains then 0 else 1
    else if o.arguments = [] then
      let kinds := o.marks.filter fun c => "aAilrux".toList.contains c
      if command = "local" then return 0
      else listDeclarations fun v => kinds.all v.letters.contains
    else if o.marks.contains 'p' && command = "declare" then
      let results ← o.arguments.mapM fun name => do
        match (← get).binding? name with
        | some v =>
          let _ ← Steps.print (declarationLine name v)
          return 0
        | none =>
          Action.warn (name ++ ": not found".toList)
          return 1
      return results.foldl max 0
    else
      let results ← o.arguments.mapM (declareOne command o isLocal)
      return results.foldl max 0

/-- Take variables, elements or functions back. -/
def unsetNames (arguments : List Chars) : Action Nat := do
  let (options, names) := match arguments with
    | ('-' :: letters) :: rest => if letters = [] || letters = ['-'] then ([], rest)
        else (letters, rest)
    | arguments => ([], arguments)
  match options.find? fun c => !"fvn".toList.contains c with
  | some unknown =>
    Action.warn ('-' :: unknown :: ": invalid option".toList)
    return 2
  | none =>
    let results ← names.mapM fun name => do
      let p ← get
      if options.contains 'f' then
        set { p with functions := p.functions.filter fun entry => entry.1 ≠ name }
        return 0
      else
        match splitReference? name with
        | some (name, subscript) =>
          let key ← keyOf name subscript
          match p.binding? name with
          | some v =>
            if v.isReadOnly then return 1
            else if key = ['@'] || key = ['*'] then
              set (p.bind name { v with elements := some (Elements.none v.toElements.isKeyed) })
              return 0
            else
              set (p.bind name
                { v with value := none, elements := some (v.toElements.erase key) })
              return 0
          | none => return 0
        | none =>
          match p.binding? name with
          | some v =>
            if v.isReadOnly then
              Action.warn (name ++ ": cannot unset: readonly variable".toList)
              return 1
            else
              if p.hidden.any fun entry => entry.1 = name then
                set (p.bind name .fresh)
              else set (p.unbind name)
              return 0
          | none =>
            if options = [] then
              set { p with functions := p.functions.filter fun entry => entry.1 ≠ name }
            return 0
    return results.foldl max 0

end Builtin

end Shell

end TcpJournal
