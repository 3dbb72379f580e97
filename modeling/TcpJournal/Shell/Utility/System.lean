import TcpJournal.Shell.Builtin.Environment
import TcpJournal.Shell.Builtin.Test
import TcpJournal.Shell.Utility.Fields

/-!
# Programs on files, names and other programs

Programs that start others, that look at names and at the system, and that
change files.
-/

namespace TcpJournal

namespace Shell

namespace Utility

open Shell.Program

/-- The last name of a path without a suffix. -/
def baseName (path suffix : Chars) : Chars :=
  let trimmed := (path.reverse.dropWhile (· = '/')).reverse
  if trimmed = [] then (if path = [] then [] else ['/'])
  else
    let name := (trimmed.reverse.takeWhile (· ≠ '/')).reverse
    if suffix ≠ [] && name ≠ suffix && suffix.isSuffixOf name then
      name.take (name.length - suffix.length)
    else name

/-- The path of the directory of a path. -/
def directoryName (path : Chars) : Chars :=
  let trimmed := path.reverse.dropWhile (· = '/')
  let parent := (trimmed.dropWhile (· ≠ '/')).dropWhile (· = '/')
  if parent ≠ [] then parent.reverse
  else if path.head? = some '/' then ['/']
  else ['.']

/-- Show the last names of paths. -/
def basename : Program :=
  withOptions "basename" 1 ⟨"as:z", [("multiple", 'a'), ("suffix", 's'), ("zero", 'z')], false⟩
    fun g => do
      let lineEnd : Chars := if g.has 'z' then ['\x00'] else ['\n']
      let suffix := (g.value? 's').getD []
      match g.operands with
      | [] =>
        report "basename" "missing operand".toList
        return 1
      | path :: rest =>
        if g.has 'a' || g.has 's' then
          output "basename" ((path :: rest).flatMap fun p => baseName p suffix ++ lineEnd)
        else
          match rest with
          | [] => output "basename" (baseName path [] ++ lineEnd)
          | [suffix] => output "basename" (baseName path suffix ++ lineEnd)
          | _ =>
            report "basename" "extra operand".toList
            return 1

/-- Show the directories of paths. -/
def dirname : Program :=
  withOptions "dirname" 1 ⟨"z", [("zero", 'z')], true⟩ fun g => do
    if g.operands = [] then
      report "dirname" "missing operand".toList
      return 1
    else
      let lineEnd := if g.has 'z' then '\x00' else '\n'
      output "dirname" (g.operands.flatMap fun path => directoryName path ++ [lineEnd])

/-- The status for an ending of another program, or for its absence. -/
def endingStatus (name : String) (command : Chars) (result : Except FileError Ending) :
    Steps Nat := do
  match result with
  | .ok ending => return ending.status
  | .error e =>
    let reason := if e = .accessDenied then e.message else "No such file or directory"
    report name ('\'' :: command ++ "': ".toList ++ reason.toList)
    return if e = .accessDenied then 126 else 127

/-- Run a program with other variables, or show the variables. -/
def env (spawn : Spawn) : Program :=
  withOptions "env" 125 ⟨"iu:0vC:S:", [("ignore-environment", 'i'), ("unset", 'u')], false⟩
    fun g => do
      let (start, operands) := match g.operands with
        | ['-'] :: rest => (true, rest)
        | operands => (g.has 'i', operands)
      if start then modify fun p => { p with bindings := [] }
      (g.options.filter fun o => o.letter = 'u').forM fun o => modify fun p => p.unbind o.value
      let isSetting (word : Chars) : Bool := word.contains '=' && word.head? ≠ some '='
      let settings := operands.takeWhile isSetting
      settings.forM fun word =>
        let name := word.takeWhile (· ≠ '=')
        modify fun p => p.bind name (.plain (some (word.drop (name.length + 1))) true false)
      match operands.drop settings.length with
      | [] =>
        let entries := (← get).environment.map fun (name, value) => name ++ '=' :: value
        output "env" (ofLines entries)
      | command :: words => endingStatus "env" command (← spawn (command :: words))

/-- Show the values of variables. -/
def printenv : Program :=
  withOptions "printenv" 2 ⟨"0", [], false⟩ fun g => do
    let p ← get
    match g.operands with
    | [] =>
      let entries := p.environment.map fun (name, value) => name ++ '=' :: value
      output "printenv" (ofLines entries)
    | names =>
      let values := names.map fun name => p.environment.lookup name
      let _ ← output "printenv" (ofLines (values.filterMap id))
      return if values.all Option.isSome then 0 else 1

/-- A word of a text, and whether blanks or the end of a line follow it. -/
structure InputWord where
  text : Chars
  endsLine : Bool
  deriving DecidableEq, Repr

/-- The words of a text, with quotes and backslashes, and the quotation mark that
is not closed on its line.  A line with a blank at its end goes on. -/
def quotedWords : Nat → Chars → Option Chars → Option Char → List InputWord × Option Char
  | 0, _, _, _ => ([], none)
  | _, [], word, quote => (word.toList.map fun w => ⟨w.reverse, true⟩, quote)
  | fuel + 1, c :: rest, word, quote =>
    let add (c : Char) : Option Chars := some (c :: word.getD [])
    match quote with
    | some q =>
      if c = q then quotedWords fuel rest (some (word.getD [])) none
      else if c = '\n' then ([], quote)
      else quotedWords fuel rest (add c) quote
    | none =>
      if c = '"' || c = '\'' then quotedWords fuel rest (some (word.getD [])) (some c)
      else if c = '\\' then
        match rest with
        | d :: rest => quotedWords fuel rest (add d) none
        | [] => quotedWords fuel rest word none
      else if c = ' ' || c = '\t' || c = '\n' then
        let (more, quote) := quotedWords fuel rest none none
        (word.toList.map (fun w => ⟨w.reverse, c = '\n'⟩) ++ more, quote)
      else quotedWords fuel rest (add c) none

/-- A text with every occurrence of another one replaced. -/
def replaceAll (old new : Chars) : Nat → Chars → Chars
  | 0, text => text
  | _, [] => []
  | fuel + 1, c :: rest =>
    if old ≠ [] && old.isPrefixOf (c :: rest) then
      new ++ replaceAll old new fuel ((c :: rest).drop old.length)
    else c :: replaceAll old new fuel rest

/-- How words become groups: at most so many words, lines and characters. -/
structure GroupLimits where
  words : Option Nat
  lines : Option Nat
  chars : Option Nat
  deriving DecidableEq, Repr

/-- The words that a group takes, behind a number of words, lines and characters
that it has. -/
def groupSize (limits : GroupLimits) : List InputWord → Nat → Nat → Nat → Nat
  | [], words, _, _ => words
  | w :: rest, words, lines, chars =>
    let chars := chars + w.text.length + 1
    if limits.words.any (· ≤ words) || limits.lines.any (· ≤ lines) || limits.chars.any (· < chars)
    then words
    else groupSize limits rest (words + 1) (if w.endsLine then lines + 1 else lines) chars

/-- Groups of words, whether each was closed by a limit, and whether some word
is too long for any. -/
def wordGroups (limits : GroupLimits) (start : Nat) :
    Nat → List InputWord → List (List Chars × Bool) × Bool
  | 0, _ => ([], false)
  | _, [] => ([], false)
  | fuel + 1, words =>
    match groupSize limits words 0 0 start with
    | 0 => ([], true)
    | n + 1 =>
      let group := words.take (n + 1)
      let lines := group.countP fun w => w.endsLine
      let isFull : Bool := words.length > n + 1 || limits.words = some (n + 1) ||
        limits.lines = some lines
      let (more, isTooLong) := wordGroups limits start fuel (words.drop (n + 1))
      ((group.map InputWord.text, isFull) :: more, isTooLong)

/-- Words in front of the command with the values that some options may leave
out. -/
def withImplied : List Chars → List Chars
  | [] => []
  | word :: rest =>
    match word with
    | ['-', 'l'] => "-L1".toList :: withImplied rest
    | '-' :: 'l' :: n => ('-' :: 'L' :: n) :: withImplied rest
    | ['-', 'i'] => "-I\x7b\x7d".toList :: withImplied rest
    | '-' :: 'i' :: mark => ('-' :: 'I' :: mark) :: withImplied rest
    | ['-', 'e'] => ['-', 'E'] :: [] :: withImplied rest
    | '-' :: 'e' :: mark => ('-' :: 'E' :: mark) :: withImplied rest
    | ['-', letter] =>
      match "nILdsPEa".toList.contains letter, rest with
      | true, value :: rest => word :: value :: withImplied rest
      | _, rest => word :: withImplied rest
    | '-' :: _ => word :: withImplied rest
    | word => word :: rest

/-- Run a program with words from the input. -/
def xargs (spawn : Spawn) : Program := fun words =>
  withOptions "xargs" 1
    ⟨"0n:I:L:d:rtP:s:xE:a:po", [("null", '0'), ("max-args", 'n'), ("replace", 'I'),
      ("delimiter", 'd'), ("no-run-if-empty", 'r'), ("max-lines", 'L'), ("max-procs", 'P'),
      ("verbose", 't'), ("exit", 'x'), ("max-chars", 's'), ("arg-file", 'a')], false⟩ (fun g => do
    let numbers := g.options.filter fun o => "nLs".toList.contains o.letter
    match numbers.find? fun o => (number? o.value).all (· = 0) with
    | some o =>
      report "xargs" (match number? o.value with
        | some _ => "value 0 for -".toList ++ o.letter :: " option should be >= 1".toList
        | none => "invalid number \"".toList ++ o.value ++ "\" for -".toList ++
            o.letter :: " option".toList)
      return 1
    | none =>
      let source ← match g.value? 'a' with
        | some path => Steps.readFile path
        | none => Steps.read 0 none
      match source with
      | .error e =>
        report "xargs" ("Cannot open input file '".toList ++ (g.value? 'a').getD [] ++
          "': ".toList ++ e.message.toList)
        return 1
      | .ok text => start g text) (withImplied words)
where
  /-- Run the command of the operands with the words of a text. -/
  start (g : Given) (text : Chars) : Steps Nat := do
    let byChar (c : Char) : List InputWord :=
      let parts := splitOnChar c text
      (if parts.getLast? = some [] then parts.dropLast else parts).map fun t => ⟨t, true⟩
    let delimiter? : Option Char := (g.last? "0d").bind fun letter =>
      if letter = '0' then some '\x00'
      else (g.value? 'd').map fun d =>
        match d with
        | ['\\', 'n'] => '\n'
        | ['\\', 't'] => '\t'
        | ['\\', '0'] => '\x00'
        | d => d.headD '\n'
    let isOne (o : GivenOption) : Bool := o.letter = 'n' && number? o.value = some 1
    let mode := ((g.options.filter fun o => "InL".toList.contains o.letter && !isOne o).getLast?.map
      GivenOption.letter).orElse fun _ => g.last? "InL"
    let replaces : Bool := mode = some 'I'
    let (found, quote) : List InputWord × Option Char :=
      match delimiter? with
      | some c => (byChar c, none)
      | none =>
        if replaces then
          let lines := (linesOf text).1.map fun line => line.dropWhile fun c => c = ' ' || c = '\t'
          let words := (lines.filter (· ≠ [])).map fun line =>
            let (words, quote) := quotedWords (line.length + 1)
              (line.flatMap fun c => if c = ' ' || c = '\t' then ['\\', c] else [c]) none none
            ((words.headD ⟨[], true⟩), quote)
          (words.map Prod.fst, words.findSome? Prod.snd)
        else quotedWords (text.length + 1) text none none
    let found := match (g.value? 'E').filter (· ≠ []) with
      | some mark => if delimiter?.isSome then found else found.takeWhile fun w => w.text ≠ mark
      | none => found
    let command := if g.operands = [] then ["echo".toList] else g.operands
    let size := (command.map fun word => word.length + 1).foldl (· + ·) 0
    let limit (letter : Char) : Option Nat := (g.value? letter).bind number?
    let limits : GroupLimits :=
      ⟨if mode = some 'n' then limit 'n' else none, if mode = some 'L' then limit 'L' else none,
        limit 's'⟩
    let (groups, isTooLong) := wordGroups limits size (found.length + 1) found
    let runs : List (List Chars) :=
      if replaces then
        let mark := (g.value? 'I').getD []
        found.map fun w => command.map fun word => replaceAll mark w.text (word.length + 1) word
      else if found = [] then (if g.has 'r' || quote.isSome then [] else [command])
      else
        let complete := groups.filter fun (_, isFull) => isFull || !(quote.isSome || isTooLong)
        complete.map fun (words, _) => command ++ words
    let status ← runAll g 0 runs
    match quote with
    | some q =>
      report "xargs" ("unmatched ".toList ++ (if q = '"' then "double" else "single").toList ++
        " quote; by default quotes are special to xargs unless you use the -0 option".toList)
      return max status 1
    | none =>
      if isTooLong then
        report "xargs" "argument line too long".toList
        return max status 1
      else return status
  /-- Run commands, after some with the given status, until one of them cannot go
  on. -/
  runAll (g : Given) (status : Nat) : List (List Chars) → Steps Nat
    | [] => return status
    | words :: rest => do
      let found ← runOnce g words
      if found > 123 then return found
      else runAll g (max status found) rest
  /-- Run a command. -/
  runOnce (g : Given) (words : List Chars) : Steps Nat := do
    if g.has 't' then Steps.complain ([' '].intercalate words ++ ['\n'])
    match ← spawn words with
    | .ok (.exit 255) => return 124
    | .ok (.exit 0) => return 0
    | .ok (.exit _) => return 123
    | .ok (.signal _) => return 125
    | .error e =>
      report "xargs" ((words.headD []) ++ ": ".toList ++
        (if e = .accessDenied then e.message else "No such file or directory").toList)
      return if e = .accessDenied then 126 else 127

/-- Run a program as it is. -/
def passOn (spawn : Spawn) (name : String) (letters : String) : Program :=
  withOptions name 125 ⟨letters, [], false⟩ fun g => do
    match g.operands with
    | [] =>
      if name = "nice" && g.options = [] then output name "0\n".toList
      else
        report name "missing operand".toList
        return 125
    | command :: words => endingStatus name command (← spawn (command :: words))

/-- A duration in thousandths of a second. -/
def duration? (text : Chars) : Option Nat :=
  match leadingNumber? text with
  | some (.finite negative significand exponent, rest) =>
    let unit? := match String.ofList rest with
      | "" | "s" => some 1000
      | "m" => some 60000
      | "h" => some 3600000
      | "d" => some 86400000
      | _ => none
    let (n, d) := Binary64.ratio significand exponent
    if negative && n ≠ 0 then none else unit?.map fun unit => n * unit / d
  | _ => none

/-- Do nothing for a while. -/
def sleep : Program := fun words => do
  match words.find? fun word => (duration? word).isNone && word ≠ "infinity".toList with
  | some word =>
    report "sleep" ("invalid time interval '".toList ++ word ++ ['\''])
    return 1
  | none =>
    if words = [] then
      report "sleep" "missing operand".toList
      return 1
    else return 0

/-- Run a program for a limited time; only one that sleeps is too slow. -/
def timeout (spawn : Spawn) : Program :=
  withOptions "timeout" 125 ⟨"s:k:vfp", [("signal", 's'), ("kill-after", 'k'),
    ("preserve-status", 'p'), ("foreground", 'f')], false⟩ fun g => do
    match g.operands with
    | limit :: command :: words =>
      match duration? limit with
      | none =>
        report "timeout" ("invalid time interval '".toList ++ limit ++ ['\''])
        return 125
      | some limit =>
        let sleeps : Bool := baseName command [] = "sleep".toList
        let needed := ((words.filterMap duration?).foldl (· + ·) 0)
        if sleeps && limit > 0 && needed > limit then
          let signal := ((g.value? 's').bind signalNumber?).getD 15
          return if g.has 'p' then 128 + signal else if signal = 9 then 137 else 124
        else endingStatus "timeout" command (← spawn (command :: words))
    | _ =>
      report "timeout" "missing operand".toList
      return 125

/-- Report a switch of users: the arguments, and the input. -/
def su : Program := fun words => do
  match ← Steps.read 0 none with
  | .error _ => return 1
  | .ok text =>
    let arguments := words.flatMap fun word => " [".toList ++ word ++ [']']
    output "su" ("su".toList ++ arguments ++ '\n' :: text ++ ['\n'])

/-- Write a line without end; a limit stands for the end. -/
def yes : Program := fun words => do
  let line := (if words = [] then ['y'] else [' '].intercalate words) ++ ['\n']
  let count := 0x20000 / line.length + 1
  output "yes" (List.replicate count line).flatten

/-- The status of a condition. -/
def test (closing : Bool) : Program := fun words => do
  let words? := if !closing then some words
    else if words.getLast? = some [']'] then some words.dropLast else none
  match words? with
  | none =>
    report "[" "missing ']'".toList
    return 2
  | some words =>
    match Condition.holds (← get) (words.length + 2) words with
    | .ok b => return if b then 0 else 1
    | .error reason =>
      report "test" reason
      return 2

/-- Write arguments by a format. -/
def printf : Program := fun words => do
  let words := if words.head? = some ['-', '-'] then words.drop 1 else words
  match words with
  | [] =>
    report "printf" "missing operand".toList
    return 1
  | format :: words =>
    let result := Print.run .format format words
    let status ← output "printf" result.written.reverse
    result.reports.forM fun reason => report "printf" reason
    return if result.reports = [] then status else 1

/-- Names on the lines of a directory. -/
def ls : Program :=
  withOptions "ls" 2 ⟨"aAdl1FpRrtShinsgQCmxU", [("all", 'a'), ("almost-all", 'A'),
    ("directory", 'd')], true⟩ fun g => do
    let p ← get
    let operands := if g.operands = [] then [['.']] else g.operands
    let found := operands.map fun path =>
      (path, (p.world.files.find p.directory path).bind fun place =>
        match p.world.files.node? place with
        | some node => .ok (place, node)
        | none => .error FileError.notFound)
    let missing := found.filter fun (_, r) => r.toOption.isNone
    missing.forM fun (path, r) =>
      match r with
      | .error e =>
        report "ls" ("cannot access '".toList ++ path ++ "': ".toList ++ e.message.toList)
      | .ok _ => pure ()
    let order (names : List Chars) : List Chars :=
      let sorted := names.mergeSort Glob.textLE
      if g.has 'r' then sorted.reverse else sorted
    let isDirectory (node : FileNode) : Bool := node = .directory && !g.has 'd'
    let there := found.filterMap fun (path, r) => r.toOption.map fun r => (path, r)
    let files := (there.filter fun (_, _, node) => !isDirectory node).map Prod.fst
    let directories := (there.filter fun (_, _, node) => isDirectory node)
    let listing (place : FilePath) : List Chars :=
      let names := p.world.files.names place
      let shown := if g.has 'a' then ['.'] :: ['.', '.'] :: names
        else if g.has 'A' then names
        else names.filter fun name => name.head? ≠ some '.'
      order shown
    let titled : Bool := operands.length > 1
    let parts := (order (directories.map Prod.fst)).filterMap fun path =>
      (directories.find? fun d => d.1 = path).map fun (_, place, _) =>
        (if titled then path ++ [':', '\n'] else []) ++ ofLines (listing place)
    let first := if files = [] then [] else [ofLines (order files)]
    let _ ← output "ls" (['\n'].intercalate (first ++ parts))
    return if missing = [] then 0 else 2

/-- Change a file or directory that a path leads to. -/
def onPath (name verb : String) (path : Chars)
    (act : World → FilePath → Option FileNode → Except FileError FileTree) : Steps Nat := do
  let p ← get
  let result := (p.world.files.find p.directory path).bind fun place =>
    act p.world place (p.world.files.node? place)
  match result with
  | .ok files =>
    set { p with world := { p.world with files } }
    return 0
  | .error e =>
    report name (verb.toList ++ " '".toList ++ path ++ "': ".toList ++ e.message.toList)
    return 1

/-- Do something with each operand, of which there has to be one. -/
def onOperands (name : String) (g : Given) (act : Chars → Steps Nat) : Steps Nat := do
  if g.operands = [] then
    report name "missing operand".toList
    Steps.complain ("Try '".toList ++ name.toList ++ " --help' for more information.\n".toList)
    return 1
  else return (← g.operands.mapM act).foldl max 0

/-- Make directories. -/
def mkdir : Program :=
  withOptions "mkdir" 1 ⟨"pm:v", [("parents", 'p'), ("mode", 'm')], true⟩ fun g => do
    let make (path : Chars) : Steps Nat :=
      onPath "mkdir" "cannot create directory" path fun world place node =>
        match node with
        | some .directory => if g.has 'p' then .ok world.files else .error .alreadyExists
        | some _ => .error .alreadyExists
        | none =>
          if world.files.node? place.dropLast = some .directory then
            .ok (world.files.put place .directory)
          else .error .notFound
    let parents (path : Chars) : List Chars :=
      let names := (FileTree.splitPath path).filter (· ≠ [])
      let start : Chars := if path.head? = some '/' then ['/'] else []
      (List.range names.length).map fun n => start ++ ['/'].intercalate (names.take (n + 1))
    onOperands "mkdir" g fun path => do
      if g.has 'p' then return ((← (parents path).mapM make).foldl max 0)
      else make path

/-- Remove files, or directories with all they hold. -/
def rm : Program :=
  withOptions "rm" 1 ⟨"rRfidv", [("recursive", 'r'), ("force", 'f')], true⟩ fun g => do
    let isRecursive : Bool := g.has 'r' || g.has 'R'
    let removePath (path : Chars) : Steps Nat := do
      let p ← get
      let found := p.world.files.find p.directory path
      let isThere := (found.toOption.bind p.world.files.node?).isSome
      if !isThere && g.has 'f' then return 0
      else
        onPath "rm" "cannot remove" path fun world place node =>
          match node with
          | none => .error .notFound
          | some .directory =>
            if isRecursive then
              .ok ⟨world.files.entries.filter fun entry => !place.isPrefixOf entry.1⟩
            else .error .isDirectory
          | some _ => .ok (world.files.remove place)
    if g.operands = [] && g.has 'f' then return 0
    else onOperands "rm" g removePath

/-- Remove empty directories. -/
def rmdir : Program :=
  withOptions "rmdir" 1 ⟨"pv", [], true⟩ fun g => do
    onOperands "rmdir" g fun path =>
      onPath "rmdir" "failed to remove" path fun world place node =>
        match node with
        | none => .error .notFound
        | some .directory =>
          if world.files.names place = [] then .ok (world.files.remove place) else .error .notEmpty
        | some _ => .error .notDirectory

/-- Make files that are missing. -/
def touch : Program :=
  withOptions "touch" 1 ⟨"acmr:t:d:", [("no-create", 'c')], true⟩ fun g => do
    onOperands "touch" g fun path =>
      onPath "touch" "cannot touch" path fun world place node =>
        match node with
        | some _ => .ok world.files
        | none =>
          if g.has 'c' then .ok world.files
          else if world.files.node? place.dropLast = some .directory then
            .ok (world.files.put place (.regular [] false))
          else .error .notFound

/-- What a part of a mode does to programs: whether a file becomes one, if the
part says so. -/
def modePart? (part : Chars) : Option (Option Bool) :=
  let rest := part.dropWhile "ugoa".toList.contains
  match rest with
  | action :: letters =>
    if !"+-=".toList.contains action || !letters.all "rwxXstugo".toList.contains then none
    else if letters.contains 'x' then some (some (action ≠ '-'))
    else some (if action = '=' then some false else none)
  | [] => none

/-- What a mode does to programs: whether a file becomes one, if the mode says
so. -/
def mode? (text : Chars) : Option (Option Bool) :=
  if text ≠ [] && text.length ≤ 5 && text.all isOctal then
    some (some (text.any fun c => Decimal.digitValue c % 2 = 1))
  else
    ((splitOnChar ',' text).mapM modePart?).map fun parts => (parts.filterMap id).getLast?

/-- Change who may run a file. -/
def chmod : Program := fun words => do
  let words := words.filter fun word =>
    ["-R", "-v", "-f", "-c", "--"].all fun option => option.toList ≠ word
  match words with
  | mode :: path :: paths =>
    match mode? mode with
    | none =>
      report "chmod" ("invalid mode: '".toList ++ mode ++ ['\''])
      return 1
    | some change =>
      let results ← (path :: paths).mapM fun path =>
        onPath "chmod" "cannot access" path fun world place node =>
          match node with
          | none => .error .notFound
          | some (.regular text isProgram) =>
            .ok (world.files.put place (.regular text (change.getD isProgram)))
          | some _ => .ok world.files
      return results.foldl max 0
  | _ =>
    report "chmod" "missing operand".toList
    return 1

/-- Copy a file, or move it. -/
def copyFile (name : String) (moves : Bool) : Program :=
  withOptions name 1 ⟨"rRafpitvnu", [], true⟩ fun g => do
    match g.operands.reverse with
    | target :: sources =>
      if sources = [] then
        report name "missing destination file operand".toList
        return 1
      else
        let results ← sources.reverse.mapM fun source => do
          match ← Steps.readFile source with
          | .error e =>
            report name ("cannot stat '".toList ++ source ++ "': ".toList ++ e.message.toList)
            return 1
          | .ok text =>
            let p ← get
            let isDirectory : Bool :=
              (p.world.files.find p.directory target).toOption.bind p.world.files.node? =
                some .directory
            let path := if isDirectory then target ++ '/' :: baseName source [] else target
            match ← Steps.openFile .writing path with
            | .error e =>
              report name ("cannot create regular file '".toList ++ path ++ "': ".toList ++
                e.message.toList)
              return 1
            | .ok index =>
              let p ← get
              match p.world.streams[index]? with
              | none => return 1
              | some s =>
                match s.write text p.world.files with
                | .error _ => return 1
                | .ok (s, files) =>
                  let p := p.setStream index s
                  let files := if moves then
                      match files.find p.directory source with
                      | .ok place => files.remove place
                      | .error _ => files
                    else files
                  set { p with world := { p.world with files } }
                  return 0
        return results.foldl max 0
    | [] =>
      report name "missing file operand".toList
      return 1

/-- Make a new file or directory with a name of its own. -/
def mktemp : Program :=
  withOptions "mktemp" 1 ⟨"dup:qt", [], true⟩ fun g => do
    let p ← get
    let path := "/tmp/tmp.".toList ++ Decimal.padLeft '0' 10 (Decimal.digits p.world.nextProcess)
    let node : FileNode := if g.has 'd' then .directory else .regular [] false
    match p.world.files.find p.directory path with
    | .error _ => return 1
    | .ok place =>
      set { p with world := { p.world with files := p.world.files.put place node } }
      output "mktemp" (path ++ ['\n'])

/-- Compare two files byte by byte. -/
def cmp : Program :=
  withOptions "cmp" 2 ⟨"sln:i:b", [("silent", 's'), ("quiet", 's')], true⟩ fun g => do
    let files := if g.operands.length = 1 then g.operands ++ [['-']] else g.operands
    match files with
    | [a, b] =>
      let (texts, failed) ← inputs "cmp" [a, b]
      match failed, texts with
      | false, [(_, s), (_, t)] =>
        let shared := ((s.zip t).takeWhile fun (c, d) => c = d).length
        if s = t then return 0
        else
          if !g.has 's' then
            if shared < s.length && shared < t.length then
              let line := (s.take shared).count '\n' + 1
              let _ ← Steps.print (a ++ ' ' :: b ++ " differ: byte ".toList ++
                Decimal.digits (shared + 1) ++ ", line ".toList ++ Decimal.digits line ++ ['\n'])
            else
              report "cmp" ("EOF on ".toList ++ (if s.length < t.length then a else b))
          return 1
      | _, _ => return 2
    | _ =>
      report "cmp" "missing operand".toList
      return 2

/-- Show the paths of programs. -/
def which : Program := fun words => do
  let p ← get
  let results ← (words.filter (· ≠ ['-', 'a'])).mapM fun name => do
    let path? :=
      if name.contains '/' then
        match Builtin.meaning { p with functions := [], aliases := [] } name with
        | .program path => some path
        | _ => none
      else Builtin.programPath? p name
    match path? with
    | some path => output "which" (path ++ ['\n'])
    | none => return 1
  return results.foldl max 0

/-- Show the path that a path leads to. -/
def realpath (name : String) (onlyLinks : Bool) : Program :=
  withOptions name 1 ⟨"efmsnqz", [], true⟩ fun g => do
    let p ← get
    let follows : Bool := !onlyLinks || g.has 'f' || g.has 'e' || g.has 'm'
    let results ← g.operands.mapM fun path => do
      match p.world.files.find p.directory path with
      | .ok place =>
        if follows then output name (FileTree.pathText place ++ if g.has 'n' then [] else ['\n'])
        else return 1
      | .error e =>
        if follows then report name (path ++ ": ".toList ++ e.message.toList)
        return 1
    return results.foldl max 0

/-- Show what the system is. -/
def uname : Program :=
  withOptions "uname" 1 ⟨"asnrvmpio", [], true⟩ fun g => do
    let parts := (if g.options = [] || g.has 's' || g.has 'a' then ["Linux".toList] else []) ++
      (if g.has 'm' then ["x86_64".toList] else []) ++
      (if g.has 'o' then ["GNU/Linux".toList] else [])
    output "uname" ([' '].intercalate parts ++ ['\n'])

/-- Show who runs the program. -/
def identity : Program :=
  withOptions "id" 1 ⟨"ugnGr", [], true⟩ fun g => do
    let text := if g.options = [] then "uid=0(root) gid=0(root) groups=0(root)"
      else if g.has 'n' then "root" else "0"
    output "id" (text.toList ++ ['\n'])

end Utility

end Shell

end TcpJournal
