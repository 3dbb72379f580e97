import TcpJournal.Shell.Conversion
import TcpJournal.Shell.Expansion

/-!
# Commands on variables and options

The commands of the shell that set, mark, remove and show variables, arguments,
options and aliases, and the one that reads a line into variables.  Each answers
a status.
-/

namespace TcpJournal

namespace Shell

/-- A text in single quotes, with single quotes among double ones. -/
def singleQuotes (text : Chars) : Chars :=
  let rec pieces : Nat → Chars → Chars
    | 0, _ => []
    | fuel + 1, text =>
      let plain := text.takeWhile (· ≠ '\'')
      let rest := text.drop plain.length
      let marks := rest.takeWhile (· = '\'')
      let shown := if plain = [] && marks ≠ [] then [] else '\'' :: plain ++ ['\'']
      let after := rest.drop marks.length
      shown ++ (if marks = [] then [] else '"' :: marks ++ ['"']) ++
        (if after = [] then [] else pieces fuel after)
  pieces (text.length + 1) text

/-- The decimal number that an argument has to be. -/
def argumentNumber (text : Chars) : Action Nat := do
  let (negative, rest) := leadingSign (text.dropWhile isBlankChar)
  let digits := rest.takeWhile Text.isDigit
  let isWhole : Bool := digits ≠ [] && (rest.drop digits.length).all isBlankChar
  let n := Decimal.value digits
  if isWhole && n < 2 ^ 31 && !(negative && n > 0) then return n
  else Action.fault ("Illegal number: ".toList ++ text)

/-- The options at the front of arguments, among letters that are known, and
the arguments behind them. -/
def leadingOptions (known : Chars) : List Chars → Action (Chars × List Chars)
  | [] => return ([], [])
  | argument :: rest => do
    if argument = ['-', '-'] then return ([], rest)
    else
      match argument with
      | '-' :: c :: letters =>
        match (c :: letters).find? fun d => !known.contains d with
        | some unknown => Action.fault ("Illegal option -".toList ++ [unknown])
        | none =>
          let (more, arguments) ← leadingOptions known rest
          return (c :: letters ++ more, arguments)
      | _ => return ([], argument :: rest)

namespace Builtin

/-- The variables in the order of their names. -/
def sortedBindings (p : Process) : List (Chars × Variable) :=
  p.bindings.mergeSort fun a b => Glob.textLE a.1 b.1

/-- Show the variables of a kind as the commands that set them. -/
def showBindings (command : String) (holds : Variable → Bool) : Action Nat := do
  let p ← get
  let lines := (sortedBindings p).filter (holds ·.2) |>.map fun (name, v) =>
    let start := if command = "" then name else command.toList ++ ' ' :: name
    start ++ (match v.value with
      | some value => '=' :: singleQuotes value
      | none => []) ++ ['\n']
  let ok ← Steps.print lines.flatten
  return if ok then 0 else 1

/-- Set a variable where a value is given, and mark it. -/
def markOne (mark : Variable → Variable) (argument : Chars) : Action Unit := do
  let (name, value?) := match splitAssignment? argument with
    | some (name, value) => (name, some value)
    | none => (argument, none)
  if !isName name then Action.fault (name ++ ": bad variable name".toList)
  else
    match value? with
    | some value => Action.assign name value
    | none => pure ()
    modify fun p =>
      let v := (p.binding? name).getD .fresh
      p.bind name (mark v)

/-- Mark variables, or show those that are marked. -/
def mark (command : String) (holds : Variable → Bool) (change : Variable → Variable)
    (arguments : List Chars) : Action Nat := do
  let (options, names) ← leadingOptions ['p'] arguments
  if options ≠ [] || names = [] then showBindings command holds
  else
    names.forM (markOne change)
    return 0

/-- Pass variables on to programs. -/
def export_ (arguments : List Chars) : Action Nat :=
  mark "export" (·.isExported) (fun v => { v with isExported := true }) arguments

/-- Protect variables from changes. -/
def readOnly (arguments : List Chars) : Action Nat :=
  mark "readonly" (·.isReadOnly) (fun v => { v with isReadOnly := true }) arguments

/-- Give variables values that last as long as the current function. -/
def local_ (arguments : List Chars) : Action Nat := do
  if (← get).functionDepth = 0 then Action.fault "not in a function".toList
  else
    arguments.forM fun argument => do
      let p ← get
      let name := match splitAssignment? argument with
        | some (name, _) => name
        | none => argument
      if !isName name then Action.fault (name ++ ": bad variable name".toList)
      else
        if !p.hidden.any fun entry => entry.1 = name then
          set { p with hidden := (name, p.binding? name) :: p.hidden }
        match splitAssignment? argument with
        | some (name, value) => Action.assign name value
        | none => pure ()
    return 0

/-- Remove variables or functions. -/
def unset (arguments : List Chars) : Action Nat := do
  let (options, names) ← leadingOptions ['v', 'f'] arguments
  names.forM fun name => do
    let p ← get
    if options.getLast? = some 'f' then
      set { p with functions := p.functions.filter fun entry => entry.1 ≠ name }
    else
      match p.binding? name with
      | some v =>
        if v.isReadOnly then Action.fault (name ++ ": is read only".toList)
        else if name = "OPTIND".toList then Action.fault "Illegal number: ".toList
        else set (p.unbind name)
      | none =>
        if !isName name then Action.fault (name ++ ": bad variable name".toList)
        else if options = [] then
          set { p with functions := p.functions.filter fun entry => entry.1 ≠ name }
  return 0

/-- Drop the first arguments. -/
def shift (arguments : List Chars) : Action Nat := do
  let count ← match arguments with
    | [] => pure 1
    | n :: _ => argumentNumber n
  let p ← get
  if count > p.arguments.length then Action.fault "can't shift that many".toList
  else
    set { p with arguments := p.arguments.drop count }
    return 0

/-- The options that have names, in the order in which they are listed. -/
def namedOptions : List (String × Char) :=
  [("errexit", 'e'), ("noglob", 'f'), ("ignoreeof", 'I'), ("interactive", 'i'), ("monitor", 'm'),
   ("noexec", 'n'), ("stdin", 's'), ("xtrace", 'x'), ("verbose", 'v'), ("vi", 'V'),
   ("emacs", 'E'), ("noclobber", 'C'), ("allexport", 'a'), ("notify", 'b'), ("nounset", 'u'),
   ("privileged", 'p'), ("nolog", '\x01'), ("debug", '\x02')]

/-- Turn an option on or off. -/
def turn (isOn : Bool) (letter : Char) : Action Unit :=
  modify fun p =>
    let others := p.options.filter (· ≠ letter)
    { p with options := if isOn then letter :: others else others }

/-- Show all options, given those that are on. -/
def showOptions (asCommands : Bool) (isOn : Char → Bool) : Action Nat := do
  let lines := namedOptions.map fun (name, letter) =>
    if asCommands then
      "set ".toList ++ (if isOn letter then '-' else '+') :: "o ".toList ++ name.toList ++ ['\n']
    else
      name.toList ++ List.replicate (16 - name.length) ' ' ++
        (if isOn letter then "on\n" else "off\n").toList
  let title := if asCommands then [] else "Current option settings\n".toList
  let ok ← Steps.print (title ++ lines.flatten)
  return if ok then 0 else 1

/-- Turn options on or off by their letters; one of them takes a name from the words.
A shell that starts takes all options as on while they are shown, and knows the letter
that announces a command line.  The answer is the words that are left. -/
def turnLetters (isStart isOn : Bool) : Chars → List Chars → Action (List Chars)
  | [], words => return words
  | 'o' :: letters, [] => do
    let p ← get
    let _ ← showOptions (!isOn) fun letter => isStart || p.has letter
    turnLetters isStart isOn letters []
  | 'o' :: letters, name :: words => do
    match namedOptions.find? fun entry => entry.1.toList = name with
    | some (_, letter) =>
      turn isOn letter
      turnLetters isStart isOn letters words
    | none => Action.fault ("Illegal option -o ".toList ++ name)
  | letter :: letters, words => do
    if optionLetters.contains letter then turn isOn letter
    else if isStart && letter = 'c' then turn true 'c'
    else if !isStart || letter ≠ 'l' then Action.fault ("Illegal option -".toList ++ [letter])
    turnLetters isStart isOn letters words

/-- Turn options on or off by the words at the front.  The answer is the words behind
them, or nothing where the words are at their end. -/
def readOptions (isStart : Bool) : Nat → List Chars → Action (Option (List Chars))
  | _, [] => return none
  | 0, words => return some words
  | fuel + 1, word :: rest => do
    match word with
    | ['-', '-'] => return some rest
    | ['-'] =>
      if !isStart then
        turn false 'x'
        turn false 'v'
      return if rest = [] then none else some rest
    | '-' :: letters => readOptions isStart fuel (← turnLetters isStart true letters rest)
    | '+' :: letters => readOptions isStart fuel (← turnLetters isStart false letters rest)
    | word => return some (word :: rest)

/-- Set options and arguments, or show all variables. -/
def set_ (words : List Chars) : Action Nat := do
  if words = [] then showBindings "" (·.value.isSome)
  else
    if let some arguments ← readOptions false words.length words then
      modify fun p => { p with arguments, optionIndex := 1, optionOffset := 0 }
    return 0

/-- Characters of a line with the mark that a backslash protects them. -/
def protectedChars (isRaw : Bool) : Chars → List MarkedChar
  | '\\' :: c :: rest =>
    if isRaw then ('\\', false) :: protectedChars isRaw (c :: rest)
    else (c, true) :: protectedChars isRaw rest
  | c :: rest => (c, false) :: protectedChars isRaw rest
  | [] => []

/-- Read a line with the lines that continue it; the flag says whether the last
one was ended. -/
def readJoined (isRaw : Bool) : Nat → Steps (Option (Chars × Bool))
  | 0 => return some ([], false)
  | fuel + 1 => do
    match ← Steps.readLine 0 with
    | .error _ => return none
    | .ok line =>
      let line := line.filter (· ≠ '\x00')
      let ended := line.getLast? = some '\n'
      let text := if ended then line.dropLast else line
      if ended && !isRaw && isContinued text then
        return (← readJoined isRaw fuel).map fun (more, ended) => (text.dropLast ++ more, ended)
      else return some (text, ended)

/-- The text up to the next separator as one value, and what follows the
separator with the blanks around it. -/
def splitValue (ifs : Chars) (text : List MarkedChar) : Chars × List MarkedChar :=
  let separates (m : MarkedChar) : Bool := !m.2 && ifs.contains m.1
  let isBlank (m : MarkedChar) : Bool :=
    separates m && (m.1 = ' ' || m.1 = '\t' || m.1 = '\n')
  let value := text.takeWhile fun m => !separates m
  let rest := (text.drop value.length).dropWhile isBlank
  let rest := match rest with
    | m :: after => if separates m then after.dropWhile isBlank else rest
    | [] => []
  (value.map Prod.fst, rest)

/-- The values of variables that share a line; the last one takes the rest. -/
def lineValues (ifs : Chars) : Nat → List MarkedChar → List Chars
  | 0, _ => []
  | 1, text =>
    let isBlank (m : MarkedChar) : Bool :=
      !m.2 && ifs.contains m.1 && (m.1 = ' ' || m.1 = '\t' || m.1 = '\n')
    let (value, rest) := splitValue ifs text
    if rest = [] then [value]
    else [((text.reverse.dropWhile isBlank).reverse).map Prod.fst]
  | n + 2, text =>
    let (value, rest) := splitValue ifs text
    value :: lineValues ifs (n + 1) rest

/-- Read a line into variables. -/
def read (arguments : List Chars) : Action Nat := do
  let arguments ← dropPrompt arguments
  let (options, names) ← leadingOptions ['r'] arguments
  if names = [] then Action.fault "arg count".toList
  else
    let isRaw := options.contains 'r'
    match ← readJoined isRaw 10000 with
    | none => return 1
    | some (line, ended) =>
      let p ← get
      let ifs := separators p
      let marks := protectedChars isRaw line
      let isBlank (m : MarkedChar) : Bool :=
        !m.2 && ifs.contains m.1 && (m.1 = ' ' || m.1 = '\t' || m.1 = '\n')
      let values := lineValues ifs names.length (marks.dropWhile isBlank)
      (names.zip values).forM fun (name, value) => do
        if isName name then Action.assign name value
        else Action.fault (name ++ ": bad variable name".toList)
      return if ended then 0 else 1
where
  /-- Arguments without the option for a prompt. -/
  dropPrompt : List Chars → Action (List Chars)
    | ['-', 'p'] :: _ :: rest => return rest
    | ['-', 'r', 'p'] :: _ :: rest => return ['-', 'r'] :: rest
    | arguments => return arguments

/-- Define aliases or show them. -/
def alias_ (arguments : List Chars) : Action Nat := do
  let p ← get
  let shown (entry : Chars × Chars) : Chars :=
    if p.dialect = .plain then entry.1 ++ '=' :: singleQuotes entry.2 ++ ['\n']
    else "alias ".toList ++ entry.1 ++ '=' :: Quotation.enclosed entry.2 ++ ['\n']
  if arguments = [] then
    let _ ← Steps.print (p.aliases.flatMap shown)
    return 0
  else
    let results ← arguments.mapM fun argument => do
      let name := argument.takeWhile (· ≠ '=')
      let p ← get
      if name.length < argument.length && name ≠ [] then
        let others := p.aliases.filter fun entry => entry.1 ≠ name
        set { p with aliases := (name, argument.drop (name.length + 1)) :: others }
        return 0
      else
        match p.aliases.lookup argument with
        | some text =>
          let _ ← Steps.print (shown (argument, text))
          return 0
        | none =>
          Steps.complain ("alias: ".toList ++ argument ++ " not found\n".toList)
          return 1
    return results.foldl max 0

/-- Remove aliases. -/
def unalias (arguments : List Chars) : Action Nat := do
  let (options, names) ← leadingOptions ['a'] arguments
  if options ≠ [] then
    modify fun p => { p with aliases := [] }
    return 0
  else
    let results ← names.mapM fun name => do
      let p ← get
      if p.aliases.any fun entry => entry.1 = name then
        set { p with aliases := p.aliases.filter fun entry => entry.1 ≠ name }
        return 0
      else
        Steps.complain ("unalias: ".toList ++ name ++ " not found\n".toList)
        return 1
    return results.foldl max 0

/-- Take the next option from arguments. -/
def getOptions (arguments : List Chars) : Action Nat := do
  match arguments with
  | letters :: name :: given =>
    let p ← get
    let words := if given = [] then p.arguments else given
    let isQuiet := letters.head? = some ':'
    let word := (words[p.optionIndex - 1]?).getD []
    let finish (letter : Char) (argument : Option Chars) (index offset status : Nat) :
        Action Nat := do
      match argument with
      | some text => Action.assign "OPTARG".toList text
      | none => modify fun p => p.unbind "OPTARG".toList
      modify fun p => p.atOption index offset
      Action.assign name [letter]
      return status
    let offset := if p.optionOffset = 0 then 1 else p.optionOffset
    let isOption := word.head? = some '-' && word.length > 1
    if p.optionOffset = 0 && (!isOption || word = ['-', '-']) then
      let index := if word = ['-', '-'] then p.optionIndex + 1 else p.optionIndex
      modify fun p => p.atOption index 0
      Action.assign name ['?']
      return 1
    else
      let letter := word.getD offset '?'
      let isLast := offset + 1 ≥ word.length
      let (nextIndex, nextOffset) :=
        if isLast then (p.optionIndex + 1, 0) else (p.optionIndex, offset + 1)
      let place := letters.idxOf letter
      if letter = ':' || place ≥ letters.length then
        if isQuiet then finish '?' (some [letter]) nextIndex nextOffset 0
        else
          Steps.complain ("Illegal option -".toList ++ [letter, '\n'])
          finish '?' none nextIndex nextOffset 0
      else if letters[place + 1]? = some ':' then
        if !isLast then finish letter (some (word.drop (offset + 1))) (p.optionIndex + 1) 0 0
        else
          match words[p.optionIndex]? with
          | some argument => finish letter (some argument) (p.optionIndex + 2) 0 0
          | none =>
            if isQuiet then finish ':' (some [letter]) nextIndex nextOffset 0
            else
              Steps.complain ("No arg for -".toList ++ letter :: " option\n".toList)
              finish '?' none nextIndex nextOffset 0
      else finish letter (some []) nextIndex nextOffset 0
  | _ => Action.fault "Usage: getopts optstring var [arg]".toList

end Builtin

end Shell

end TcpJournal
