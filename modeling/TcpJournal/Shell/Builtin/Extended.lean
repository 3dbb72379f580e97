import TcpJournal.Shell.Builtin.Environment
import TcpJournal.Shell.Builtin.Print
import TcpJournal.Shell.Builtin.Reading
import TcpJournal.Shell.Builtin.Test

/-!
# Commands of the extended shell

What the extended shell does in its own way: it prints, tests, calculates, lists
signals and options, and keeps directories on a stack.  Each command answers a
status; nothing that goes wrong in one of them ends the shell.
-/

namespace TcpJournal

namespace Shell

namespace Builtin

/-- The names of the commands inside the extended shell. -/
def extendedNames : List String :=
  [".", ":", "[", "alias", "bg", "bind", "break", "builtin", "caller", "cd", "command", "compgen",
   "complete", "compopt", "continue", "declare", "dirs", "disown", "echo", "enable", "eval", "exec",
   "exit", "export", "false", "fc", "fg", "getopts", "hash", "help", "history", "jobs", "kill",
   "let", "local", "logout", "mapfile", "popd", "printf", "pushd", "pwd", "read", "readarray",
   "readonly", "return", "set", "shift", "shopt", "source", "suspend", "test", "times", "trap",
   "true", "type", "typeset", "ulimit", "umask", "unalias", "unset", "wait"]

/-- The words with a meaning of their own in the extended shell. -/
def extendedKeywords : List Chars :=
  Dialect.extended.reservedWords ++ ["]]", "coproc", "select"].map String.toList

/-- The signals that only the shell itself knows, and their numbers. -/
def ownSignals : List (String × Nat) := [("ERR", 1001), ("DEBUG", 1002), ("RETURN", 1003)]

/-- The text behind the start that names of signals may have. -/
def withoutSignalStart (text : Chars) : Chars :=
  if (text.take 3).map upperCase = "SIG".toList && text.length > 3 then text.drop 3 else text

/-- The signal that a text names, one of the shell itself among them. -/
def anySignal? (text : Chars) : Option Nat :=
  let name := (withoutSignalStart text).map upperCase
  match ownSignals.find? fun entry => entry.1.toList = name with
  | some (_, number) => some number
  | none => signalNumber? (withoutSignalStart text)

/-- The name of a signal as arrangements are listed. -/
def fullSignalName (number : Nat) : Chars :=
  match ownSignals.find? fun entry => entry.2 = number with
  | some (name, _) => name.toList
  | none => (if number = 0 then "" else "SIG").toList ++ (listedName number).toList

/-- Print with a format, to the output or into a variable. -/
def printFormat (arguments : List Chars) : Action Nat := do
  let (target?, words) : Option Chars × List Chars :=
    match arguments with
    | ['-', 'v'] :: name :: words => (some name, words)
    | ('-' :: 'v' :: name) :: words => if name = [] then (none, words) else (some name, words)
    | words => (none, words)
  let words := if words.head? = some ['-', '-'] then words.drop 1 else words
  match words with
  | [] =>
    Action.warn "usage: printf [-v var] format [arguments]".toList
    return 2
  | format :: words =>
    let result := Print.run .extendedFormat format words
    result.reports.forM fun reason => Action.warn reason
    let status := if result.reports = [] then 0 else 1
    match target? with
    | none =>
      if ← Steps.print result.written.reverse then return status
      else
        Action.warn "write error".toList
        return 1
    | some name =>
      return max status (← assignRead name (result.written.reverse.filter (· ≠ '\x00')))

/-- The words of a condition in the forms that every shell knows. -/
def commonCondition (p : Process) : List Chars → List Chars
  | ['-', 'v'] :: name :: rest =>
    let isSet : Bool := match splitReference? name with
      | some (base, key) => ((elementsOf p base).find? key).isSome
      | none => (parameterValue? p name).isSome
    "-n".toList :: (if isSet then ['x'] else []) :: commonCondition p rest
  | ['=', '='] :: rest => ['='] :: commonCondition p rest
  | word :: rest => word :: commonCondition p rest
  | [] => []

/-- The status of a condition. -/
def testStatus (words : List Chars) : Action Nat := do
  let p ← get
  let words := if words.length > 1 then commonCondition p words else words
  match Condition.holds p (words.length + 2) words with
  | .ok b => return if b then 0 else 1
  | .error reason =>
    Action.warn reason
    return 2

/-- Calculate the values of expressions; the status says whether the last one is
zero. -/
def calculate (arguments : List Chars) : Action Nat := do
  if arguments = [] then
    Action.warn "expression expected".toList
    return 1
  else
    let values ← arguments.mapM arithmeticValue
    return if values.getLast? = some 0 then 1 else 0

/-- The choices that the extended shell knows by name, in order. -/
def knownChoices : List String :=
  ["autocd", "assoc_expand_once", "cdable_vars", "cdspell", "checkhash", "checkjobs",
   "checkwinsize", "cmdhist", "compat31", "compat32", "compat40", "compat41", "compat42",
   "compat43", "compat44", "complete_fullquote", "direxpand", "dirspell", "dotglob", "execfail",
   "expand_aliases", "extdebug", "extglob", "extquote", "failglob", "force_fignore",
   "globasciiranges", "globskipdots", "globstar", "gnu_errfmt", "histappend", "histreedit",
   "histverify", "hostcomplete", "huponexit", "inherit_errexit", "interactive_comments",
   "lastpipe", "lithist", "localvar_inherit", "localvar_unset", "login_shell", "mailwarn",
   "no_empty_cmd_completion", "nocaseglob", "nocasematch", "noexpand_translation", "nullglob",
   "patsub_replacement", "progcomp", "progcomp_alias", "promptvars", "restricted_shell",
   "shift_verbose", "sourcepath", "varredir_close", "xpg_echo"]

/-- The choices that are made from the start. -/
def firstChoices : List Chars :=
  ["checkwinsize", "cmdhist", "complete_fullquote", "extquote", "force_fignore",
   "globasciiranges", "globskipdots", "hostcomplete", "interactive_comments",
   "patsub_replacement", "progcomp", "promptvars", "sourcepath"].map String.toList

/-- Make choices, take them back, or list them. -/
def choose (arguments : List Chars) : Action Nat := do
  let options := (arguments.takeWhile fun a => a.head? = some '-').flatMap (·.drop 1)
  let names := arguments.dropWhile fun a => a.head? = some '-'
  let p ← get
  let line (name : Chars) : Chars :=
    let isOn := (p.choices.contains name)
    if options.contains 'p' then
      "shopt -".toList ++ (if isOn then 's' else 'u') :: ' ' :: name ++ ['\n']
    else
      name ++ List.replicate (15 - name.length) ' ' ++
        (if isOn then "\ton\n" else "\toff\n").toList
  if names = [] then
    let shown := (knownChoices.map String.toList).filter fun name =>
      if options.contains 's' then p.choices.contains name
      else if options.contains 'u' then !p.choices.contains name
      else true
    let _ ← Steps.print (shown.flatMap line)
    return 0
  else
    let isKnown (name : Chars) : Bool := knownChoices.any fun known => known.toList = name
    match names.find? fun name => !isKnown name with
    | some name =>
      if options.contains 'o' then return 0
      Action.warn (name ++ ": invalid shell option name".toList)
      return 1
    | none =>
      if options.contains 's' then
        set { p with choices := names ++ p.choices.filter fun c => !names.contains c }
        return 0
      else if options.contains 'u' then
        set { p with choices := p.choices.filter fun c => !names.contains c }
        return 0
      else
        if !options.contains 'q' then
          let _ ← Steps.print (names.flatMap line)
        return if names.all p.choices.contains then 0 else 1

/-- Send a signal to processes, or tell signals by their names and numbers. -/
def killExtended (arguments : List Chars) : Action Nat := do
  match arguments with
  | ['-', 'l'] :: words | ['-', 'L'] :: words =>
    if words = [] then
      let numbers := (List.range (lastSignal + 1)).filter fun n => n ≠ 0 && n ≠ 32 && n ≠ 33
      let name (n : Nat) : Chars := "SIG".toList ++ if n = 16 then "STKFLT".toList
        else (listedName n).toList
      let cell (n : Nat) : Chars := Decimal.padLeft ' ' 2 (Decimal.digits n) ++ ')' :: ' ' :: name n
      let text := (numbers.zipIdx 1).flatMap fun (n, place) =>
        cell n ++ (if place % 5 = 0 || place = numbers.length then ['\n'] else ['\t'])
      let _ ← Steps.print text
      return 0
    else
      let results ← words.mapM fun word => do
        if word ≠ [] && word.all Text.isDigit then
          let n := Decimal.value word % 128
          if n ≤ lastSignal && n ≠ 32 && n ≠ 33 then
            let _ ← Steps.print ((listedName n).toList ++ ['\n'])
            return 0
          else return 1
        else
          match signalNumber? (withoutSignalStart word) with
          | some n =>
            let _ ← Steps.print (Decimal.digits n ++ ['\n'])
            return 0
          | none => return 1
      return results.foldl max 0
  | [] =>
    Action.warn "usage: kill [-s sigspec | -n signum | -sigspec] pid".toList
    return 2
  | ['-', 's'] :: name :: rest | ['-', 'n'] :: name :: rest =>
    match signalNumber? (withoutSignalStart name) with
    | some number => kill (('-' :: Decimal.digits number) :: rest)
    | none => Action.fault (name ++ ": invalid signal specification".toList)
  | ('-' :: name) :: rest =>
    match if name = ['-'] then none else signalNumber? (withoutSignalStart name) with
    | some number => kill (('-' :: Decimal.digits number) :: rest)
    | none =>
      if name = ['-'] then kill arguments
      else Action.fault (name ++ ": invalid signal specification".toList)
  | arguments => kill arguments

/-- Arrange for signals, or show what is arranged. -/
def trapExtended (arguments : List Chars) : Action Nat := do
  let p ← get
  let line (entry : Nat × Chars) : Chars :=
    "trap -- ".toList ++ Quotation.enclosed entry.2 ++ ' ' :: fullSignalName entry.1 ++ ['\n']
  let sorted := p.traps.mergeSort fun a b => a.1 ≤ b.1
  match arguments with
  | [] | [['-', 'p']] =>
    let _ ← Steps.print (sorted.flatMap line)
    return 0
  | ['-', 'l'] :: _ => killExtended [['-', 'l']]
  | ['-', 'p'] :: names =>
    let numbers := names.filterMap anySignal?
    let _ ← Steps.print ((sorted.filter fun entry => numbers.contains entry.1).flatMap line)
    return if numbers.length = names.length then 0 else 1
  | arguments =>
    let words := if arguments.head? = some ['-', '-'] then arguments.drop 1 else arguments
    let first := words.headD []
    let rest := words.drop 1
    let (action?, names) : Option Chars × List Chars :=
      if rest = [] then (none, words)
      else if first ≠ [] && first.all Text.isDigit then (none, words)
      else (if first = ['-'] then none else some first, rest)
    let results ← names.mapM fun name => do
      match anySignal? name with
      | none =>
        Action.warn (name ++ ": invalid signal specification".toList)
        return 1
      | some number =>
        modify fun p =>
          let others := p.traps.filter fun entry => entry.1 ≠ number
          { p with traps := match action? with
              | some action => (number, action) :: others
              | none => others }
        return 0
    return results.foldl max 0

/-- The options of the extended shell that have names, in order. -/
def extendedOptions : List (String × Char) :=
  [("allexport", 'a'), ("braceexpand", 'B'), ("emacs", '\x02'), ("errexit", 'e'),
   ("errtrace", 'E'), ("functrace", 'T'), ("hashall", 'h'), ("histexpand", 'H'),
   ("history", '\x03'), ("ignoreeof", '\x04'), ("interactive-comments", '\x05'), ("keyword", 'k'),
   ("monitor", 'm'), ("noclobber", 'C'), ("noexec", 'n'), ("noglob", 'f'), ("nolog", '\x06'),
   ("notify", 'b'), ("nounset", 'u'), ("onecmd", 't'), ("physical", 'P'), ("pipefail", '\x01'),
   ("posix", '\x07'), ("privileged", 'p'), ("verbose", 'v'), ("vi", '\x08'), ("xtrace", 'x')]

/-- Set options and arguments of the extended shell, or show options. -/
def setExtended : List Chars → Action Nat
  | [] => return 0
  | argument :: rest => do
    let behind (words : List Chars) : Action Nat := do
      modify fun p => { p with arguments := words, optionIndex := 1, optionOffset := 0 }
      return 0
    match argument with
    | ['-', '-'] => behind rest
    | ['-'] =>
      turn false 'x'
      turn false 'v'
      if rest = [] then return 0 else behind rest
    | sign :: c :: letters =>
      if sign ≠ '-' && sign ≠ '+' then behind (argument :: rest)
      else
        let letters := c :: letters
        let isOn : Bool := sign = '-'
        match letters.find? fun d => d ≠ 'o' && !"abefhkmnptuvxBCEHPT".toList.contains d with
        | some unknown =>
          Action.warn (sign :: unknown :: ": invalid option".toList)
          return 2
        | none =>
          (letters.filter (· ≠ 'o')).forM (turn isOn)
          if letters.contains 'o' then
            match rest with
            | [] =>
              let p ← get
              let line (entry : String × Char) : Chars :=
                let name := entry.1.toList
                if isOn then
                  name ++ List.replicate (15 - name.length) ' ' ++
                    (if p.has entry.2 then "\ton\n" else "\toff\n").toList
                else
                  "set ".toList ++ (if p.has entry.2 then '-' else '+') :: "o ".toList ++ name ++
                    ['\n']
              let _ ← Steps.print (extendedOptions.flatMap line)
              return 0
            | name :: rest =>
              match extendedOptions.find? fun entry => entry.1.toList = name with
              | some (_, letter) =>
                turn isOn letter
                setExtended rest
              | none =>
                Action.warn (name ++ ": invalid option name".toList)
                return 2
          else setExtended rest
    | argument => behind (argument :: rest)

/-- Show all variables of the extended shell. -/
def showVariables : Action Nat := do
  let p ← get
  let lines := (sortedBindings p).filterMap fun (name, v) =>
    match v.elements with
    | some _ => some (name ++ declaredValue v ++ ['\n'])
    | none => v.value.map fun text => name ++ '=' :: Quotation.listed text ++ ['\n']
  let _ ← Steps.print lines.flatten
  return 0

/-- What a command word stands for in the extended shell, all or the first. -/
def extendedMeanings (p : Process) (name : Chars) : List Meaning :=
  let aliases : List Meaning :=
    if p.hasNamed "expand_aliases" then ((p.aliases.lookup name).map Meaning.shorthand).toList
    else []
  let programs : List Meaning :=
    if name.contains '/' then
      match (p.world.files.find p.directory name).toOption.bind p.world.files.node? with
      | some (.regular _ true) => [.program name]
      | _ => []
    else ((programPath? p name).map Meaning.program).toList
  aliases ++ (if extendedKeywords.contains name then [.keyword] else []) ++
    (if (p.functions.lookup name).isSome then [.function] else []) ++
    (if extendedNames.any fun n => n.toList = name then [.inner] else []) ++ programs

/-- The word for a kind of command. -/
def Meaning.kindWord : Meaning → String
  | .shorthand _ => "alias"
  | keyword => "keyword"
  | function => "function"
  | program _ => "file"
  | _ => "builtin"

/-- Tell what command words stand for: at length, by the kind, by the path, or by
what would run. -/
def describeExtended (style : Char) (all : Bool) (names : List Chars) : Action Nat := do
  let p ← get
  let results ← names.mapM fun name => do
    let meanings := extendedMeanings p name
    let meanings := if style = 'P' then
        ((programPath? p name).map Meaning.program).toList
      else if style = 'p' then
        match meanings.head? with
        | some (.program path) => [.program path]
        | some _ => [.inner]
        | none => []
      else meanings
    let shown := if all then meanings else meanings.take 1
    let line (m : Meaning) : Chars :=
      match style, m with
      | 't', m => m.kindWord.toList ++ ['\n']
      | 'p', .program path | 'P', .program path => path ++ ['\n']
      | 'p', _ | 'P', _ => []
      | 'v', .shorthand text => "alias ".toList ++ name ++ '=' :: Quotation.enclosed text ++ ['\n']
      | 'v', .program path => path ++ ['\n']
      | 'v', _ => name ++ ['\n']
      | _, .shorthand text => name ++ " is aliased to \x60".toList ++ text ++ "'\n".toList
      | _, .keyword => name ++ " is a shell keyword\n".toList
      | _, .function => name ++ " is a function\n".toList
      | _, .program path => name ++ " is ".toList ++ path ++ ['\n']
      | _, _ => name ++ " is a shell builtin\n".toList
    let _ ← Steps.print (shown.flatMap line)
    if shown = [] then
      if style = 'w' then Action.warn (name ++ ": not found".toList)
      return 1
    else return 0
  return results.foldl max 0

/-- Describe command words by options. -/
def typeExtended (arguments : List Chars) : Action Nat := do
  let options := (arguments.takeWhile fun a => a.head? = some '-').flatMap (·.drop 1)
  let names := arguments.dropWhile fun a => a.head? = some '-'
  let style := if options.contains 't' then 't' else if options.contains 'P' then 'P'
    else if options.contains 'p' then 'p' else 'w'
  describeExtended style (options.contains 'a') names

/-- The directories on the stack, the current one first. -/
def directoryStack (p : Process) : List Chars :=
  FileTree.pathText p.directory :: (elementsOf p "DIRSTACK".toList).entries.map Prod.snd

/-- Keep directories on the stack. -/
def setStack (directories : List Chars) : Steps Unit :=
  modify fun p =>
    p.bind "DIRSTACK".toList
      { Variable.fresh with elements := some (Elements.ofTexts directories) }

/-- Show the stack of directories. -/
def showStack : Action Nat := do
  let p ← get
  let home := (p.value? "HOME".toList).getD []
  let shown (d : Chars) : Chars :=
    if home ≠ [] && home.isPrefixOf d && ((d.drop home.length).head?.all (· = '/')) then
      '~' :: d.drop home.length
    else d
  let _ ← Steps.print ([' '].intercalate ((directoryStack p).map shown) ++ ['\n'])
  return 0

/-- Change the directory and keep the one before, or go back to a kept one. -/
def changeByStack (isPush : Bool) (arguments : List Chars) : Action Nat := do
  let p ← get
  let kept := (directoryStack p).drop 1
  match isPush, arguments, kept with
  | true, target :: _, kept =>
    let here := FileTree.pathText p.directory
    let _ ← changeDirectory [target]
    setStack (here :: kept)
    showStack
  | true, [], target :: kept | false, _, target :: kept =>
    let here := FileTree.pathText p.directory
    let _ ← changeDirectory [target]
    setStack (if isPush then here :: kept else kept)
    showStack
  | _, _, [] =>
    Action.warn "directory stack empty".toList
    return 1

end Builtin

end Shell

end TcpJournal
