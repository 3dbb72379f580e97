import TcpJournal.Shell.Builtin.Test
import TcpJournal.Shell.Rules.Machine
import TcpJournal.Shell.Sigil.Machine
import TcpJournal.Shell.Utility.Translate

/-!
# Places and functions of scripts

Where values are kept, and what the functions do that every script has.
-/

namespace TcpJournal

namespace Shell

namespace Sigil

/-- A way to evaluate expressions, to one value or to a list, and to carry out
statements. -/
structure Engine where
  one : Expr → Act Scalar
  many : Expr → Act (List Scalar)
  run : Bool → List Statement → Act (List Scalar)

/-- A place for one value. -/
inductive Place where
  | stored (name : List Char)
  | element (name : List Char) (index : Int)
  | entry (name key : List Char)
  | lastIndex (name : List Char)
  deriving DecidableEq, Repr

/-- The element of a list by its number; numbers below zero count from the end. -/
def elementAt (items : List Scalar) (index : Int) : Scalar :=
  let index := if index < 0 then index + items.length else index
  if index < 0 then .undefined else (items[index.toNat]?).getD .undefined

/-- A list with another element, and as many empty ones in front of it as it takes. -/
def withElement (items : List Scalar) (index : Int) (v : Scalar) : List Scalar :=
  let index := (if index < 0 then index + items.length else index).toNat
  (items ++ List.replicate (index + 1 - items.length) Scalar.undefined).set index v

/-- The entries with a value for a key. -/
def withEntry (entries : List (Chars × Scalar)) (key : Chars) (v : Scalar) :
    List (Chars × Scalar) :=
  if entries.any fun entry => entry.1 = key then
    entries.map fun entry => if entry.1 = key then (key, v) else entry
  else entries ++ [(key, v)]

/-- The entries of a table from keys and values in turn. -/
def entriesOf : List Scalar → List (Chars × Scalar)
  | values =>
    let rec pairs : List Scalar → List (Chars × Scalar)
      | key :: v :: rest => (key.toText, v) :: pairs rest
      | [key] => [(key.toText, .undefined)]
      | [] => []
    (pairs values).foldl (fun entries (key, v) => withEntry entries key v) []

/-- Give the names of a declaration places of their own. -/
def declareAll (target : Expr) : Act Unit := do
  let declareOne (e : Expr) : Act Unit :=
    match e with
    | .scalar name => modify fun m => m.declare ('$' :: name) (.one .undefined)
    | .array name => modify fun m => m.declare ('@' :: name) (.many [])
    | .table name => modify fun m => m.declare ('%' :: name) (.keyed [])
    | _ => return ()
  match target with
  | .list items => items.forM declareOne
  | e => declareOne e

/-- The expression takes a list of values. -/
def isListTarget : Expr → Bool
  | .array _ | .table _ | .list _ => true
  | .mine target => isListTarget target
  | _ => false

/-- The expressions of a list that takes values. -/
def partsOf : Expr → List Expr
  | .list items => items
  | .mine (.list items) => items.map .mine
  | e => [e]

/-- The expression without a declaration. -/
def withoutMine : Expr → Expr
  | .mine target => target
  | e => e

/-- The expression stands in parentheses. -/
def isGrouped : Expr → Bool
  | .list _ => true
  | _ => false

/-- A value with the other sign. -/
def negated (v : Scalar) : Scalar :=
  match v.toNumber with
  | .whole i => .ofInt (-i)
  | v => .number v.toReal.neg

/-- A condition of a loop; one that reads a line holds as long as there is one. -/
def readsLines (condition : Expr) : Expr :=
  let condition := match condition with
    | .list [e] => e
    | e => e
  match condition with
  | .lineOf _ => .call "defined".toList [.assign [] (.scalar ['_']) condition]
  | .assign [] _ (.lineOf _) => .call "defined".toList [condition]
  | e => e

/-- The values from one to another. -/
def rangeOf (first last : Scalar) : List Scalar :=
  let isWord : Bool := match first with
    | .text t => t ≠ [] && !(t.head?.any fun c => Text.isDigit c || c = '-' || c = '+' || c = '.')
    | _ => false
  if isWord then words 100000 first.toText
  else
    let low := first.toInt
    (List.range (min (last.toInt - low + 1) 1000000).toNat).map fun (i : Nat) =>
      Scalar.ofInt (low + (i : Int))
where
  /-- The words from one on, none longer than the last one. -/
  words : Nat → Chars → List Scalar
    | 0, _ => []
    | fuel + 1, t =>
      if t.length > last.toText.length then []
      else if t = last.toText then [.text t]
      else .text t :: words fuel (Scalar.nextText t)

/-- The lines of a text with their ends. -/
def linesOf : Nat → Chars → List Chars
  | 0, _ => []
  | _, [] => []
  | fuel + 1, text =>
    let (line, rest) := Steps.firstLine text
    line :: linesOf fuel rest

/-- The number by which the ending of a command is known. -/
def waitStatus : Except FileError Ending → Int
  | .ok (.exit status) => status * 256
  | .ok (.signal number) => number
  | .error _ => -1

/-- The words for a command: those of a shell that reads it, unless it is plain. -/
def commandWords (command : Chars) : List Chars :=
  let special := "$&*()\x7b\x7d[]'\";\\|?<>~\x60\n".toList
  let plain := if command.getLast? = some '\n' then command.dropLast else command
  let words := (plain.splitBy fun c d => isBlankChar c = isBlankChar d).filter fun w =>
    !w.any isBlankChar
  let isSetting : Bool := (words.headD []).contains '='
  if plain.any special.contains || isSetting || words.head? = some "exec".toList then
    ["/bin/sh".toList, "-c".toList, command]
  else words

/-- The flags with which a pattern is used. -/
def patternFlags (pattern : Expr) (flags : Chars) : Chars :=
  match pattern with
  | .matching none _ _ inner => flags ++ inner
  | _ => flags

/-- A text with the characters of a set changed to those of another one, and the
number of characters that are in the first set. -/
def transliterated (source target flags text : Chars) : Chars × Nat :=
  let chars (set : Chars) : Chars :=
    match Utility.SetItem.listOf set with
    | .ok items => items.flatMap Utility.SetItem.members
    | .error _ => set
  let listed := chars source
  let members := if flags.contains 'c' then
      ((List.range 256).map Char.ofNat).filter fun c => !listed.contains c
    else listed
  let replacements := chars target
  let deletes := flags.contains 'd'
  let replacements := if replacements = [] && !deletes then members else replacements
  let replacement? (c : Char) : Option Char :=
    let place := members.idxOf c
    match replacements[place]? with
    | some d => some d
    | none => if deletes then none else replacements.getLast?
  let step (state : Chars × Nat × Option Char) (c : Char) : Chars × Nat × Option Char :=
    let (before, count, last) := state
    if members.contains c then
      match replacement? c with
      | none => (before, count + 1, last)
      | some d =>
        if flags.contains 's' && last = some d then (before, count + 1, last)
        else (d :: before, count + 1, some d)
    else (c :: before, count, none)
  let (before, count, _) := text.foldl step ([], 0, none)
  (before.reverse, count)

/-- The answer to a question about a file. -/
def fileTest (letter : Char) (path : Chars) : Act Scalar := do
  let p ← Act.ofSteps get
  let question := ['-', if letter = 'l' then 'L' else letter]
  let size := match (p.world.files.find p.directory path).toOption.bind p.world.files.node? with
    | some (.regular content _) => content.length
    | _ => 4096
  if letter = 'z' then return .ofBool (size = 0)
  else
    match Condition.answer p question path with
    | .ok b =>
      if letter = 's' then return if b then .ofNat size else .text []
      else if b then return .whole 1
      else
        modify fun m => { m with errorNumber := FileError.notFound.number }
        return .text []
    | .error _ => return .text []

namespace Engine

/-- The place that an expression names. -/
def place (engine : Engine) (e : Expr) : Act Place := do
  match e with
  | .scalar name => return .stored name
  | .element name index => return .element name (← engine.one index).toInt
  | .entry name key => return .entry name (← engine.one key).toText
  | .lastIndex name => return .lastIndex name
  | .mine target =>
    declareAll target
    simplePlace target
  | .list [e] => simplePlace e
  | .assign _ target _ =>
    let _ ← engine.one e
    simplePlace (withoutMine target)
  | .stepped _ _ target =>
    let _ ← engine.one e
    simplePlace target
  | .conditional condition consequence alternative =>
    if (← engine.one condition).isTrue then simplePlace consequence else simplePlace alternative
  | e => simplePlace e
where
  /-- The place of a variable. -/
  simplePlace (e : Expr) : Act Place := do
    match e with
    | .scalar name => return .stored name
    | .element name index => return .element name (← engine.one index).toInt
    | .entry name key => return .entry name (← engine.one key).toText
    | .list [.assign [] (.mine (.scalar name)) _] => return .stored name
    | .assign [] (.mine (.scalar name)) _ | .assign [] (.scalar name) _ => do
      let _ ← engine.one e
      return .stored name
    | _ => Act.die "Can't modify non-lvalue subroutine call".toList

/-- Read a place. -/
def readPlace (_ : Engine) (place : Place) : Act Scalar := do
  let m ← get
  match place with
  | .stored name => Act.scalar name
  | .element name index => return elementAt (m.array name) index
  | .entry name key => return ((m.table name).lookup key).getD .undefined
  | .lastIndex name => return .whole (((m.array name).length : Int) - 1)

/-- Write a place; variables of the environment are passed on. -/
def writePlace (_ : Engine) (place : Place) (v : Scalar) : Act Unit := do
  let m ← get
  match place with
  | .stored ['!'] => set { m with errorNumber := v.toInt.toNat }
  | .stored name => set (m.hold ('$' :: name) (.one v))
  | .element name index =>
    set (m.hold ('@' :: name) (.many (withElement (m.array name) index v)))
  | .entry name key =>
    set (m.hold ('%' :: name) (.keyed (withEntry (m.table name) key v)))
    if name = "ENV".toList then
      Act.ofSteps <| modify fun p => p.bind key (.plain (some v.toText) true false)
  | .lastIndex name =>
    let size := (v.toInt + 1).toNat
    let items := (m.array name).take size
    let items := items ++ List.replicate (size - items.length) .undefined
    set (m.hold ('@' :: name) (.many items))

/-- The expression that a pattern stands for. -/
def regex (engine : Engine) (pattern : Expr) (flags : Chars) : Act Regex := do
  let (text, flags) ← match pattern with
    | .matching none _ inner more => do
      pure ((← engine.one inner).toText, flags ++ more)
    | e => do pure ((← engine.one e).toText, flags)
  match regexOf text flags with
  | .ok r => return r
  | .error reason =>
    Act.die (reason ++ " in regex; marked by <-- HERE in m/".toList ++ text ++ ['/'])

/-- Carry out something whose end by a message is kept under a name. -/
def guard (_ : Engine) (wantsList : Bool) (body : Act (List Scalar)) : Act (List Scalar) := do
  let scopes := (← get).scopes
  match ← Act.attempt body with
  | .ok vs =>
    modify fun m => m.hold "$@".toList (.one (.text []))
    if wantsList then return vs else return vs.getLast?.toList
  | .error (.died message) =>
    modify fun m =>
      let m := if m.scopes.length = scopes.length then m else { m with scopes }
      m.hold "$@".toList (.one (.text message))
    return if wantsList then [] else [.undefined]
  | .error leap => throw leap

/-- Call a piece of code with arguments. -/
def callCode (engine : Engine) (index : Nat) (arguments : List Scalar) : Act (List Scalar) := do
  let body := ((← get).codes[index]?).getD []
  let frame : Scope := [("@_".toList, .many arguments)]
  let result ← Act.attempt <| Act.withScopes (fun scopes => [] :: frame :: scopes.getLast?.toList)
    (engine.run true body)
  match result with
  | .ok vs | .error (.returned vs) => return vs
  | .error leap => throw leap

/-- Put values in order: by their texts, or by a block that compares two of them. -/
def sortBy (engine : Engine) (block : List Statement) (items : List Scalar) :
    Act (List Scalar) := do
  let isBehind (a b : Scalar) : Act Bool := do
    if block.isEmpty then return decide (b.toText < a.toText)
    else
      modify fun m => (m.hold "$a".toList (.one a)).hold "$b".toList (.one b)
      let vs ← Act.inScope (engine.run true block)
      return decide (0 < (vs.getLast?.getD .undefined).toInt)
  let rec insert (v : Scalar) : List Scalar → Act (List Scalar)
    | [] => return [v]
    | w :: rest => do
      if ← isBehind v w then return w :: (← insert v rest) else return v :: w :: rest
  items.reverse.foldlM (fun sorted v => insert v sorted) []

/-- What happens to a script because of signals that were sent to it. -/
def receive (engine : Engine) : Act Unit := do
  let p ← Act.ofSteps get
  let mine := p.world.signals.filter fun s => s.1 = p.id
  let handlers := (← get).table "SIG".toList
  let handler? (s : Nat × Nat) : Option Scalar :=
    if isUncatchable s.2 then none
    else (handlers.lookup (listedName s.2).toList).filter fun v =>
      v.toText ≠ "DEFAULT".toList && v.isTrue
  let (handled, _) := mine.partition fun s => (handler? s).isSome
  Act.ofSteps <| modify fun p =>
    let others := p.world.signals.filter fun s => !handled.contains s
    { p with world := { p.world with signals := others } }
  handled.forM fun s => do
    let index? ← match handler? s with
      | some (.code index) => pure (some index)
      | some v => do pure ((← get).functions.lookup v.toText)
      | none => pure none
    if let some index := index? then
      let _ ← callCode engine index [.text (listedName s.2).toList]
  if (fatalSignal? (← Act.ofSteps get)).isSome then throw .killed

/-- Send a signal to processes, or to groups of them if it has a minus sign; the answer
is the number of those that it reached. -/
def kill (engine : Engine) (signal : Scalar) (targets : List Scalar) : Act Scalar := do
  let name := signal.toText
  let toGroups : Bool := name.head? = some '-'
  let name := if toGroups then name.drop 1 else name
  let name := if "SIG".toList.isPrefixOf name then name.drop 3 else name
  let number? := if name = "ZERO".toList then some 0
    else if name.all Text.isDigit && name ≠ [] then some (Decimal.value name)
    else (List.range (lastSignal + 1)).find? fun n =>
      n ≠ 0 && ((listedName n).toList = name || n > 31 && name = "NUM".toList ++ Decimal.digits n)
  match number? with
  | none => Act.die ("Unrecognized signal name \"".toList ++ name ++ ['"'])
  | some number =>
    let reached ← targets.filterM fun target => do
      if target.toInt ≤ 0 || number > lastSignal then return false
      else
        let id := Decimal.ofInt (if toGroups then -target.toInt else target.toInt)
        match ← Act.ofSteps (Builtin.sendSignal number id).run with
        | .ok b => return b
        | .error _ => return false
    if reached.length < targets.length then
      modify fun m => { m with errorNumber := if number > lastSignal then 22 else 3 }
    receive engine
    return .ofNat reached.length

/-- Run a command, which is one text or has several words. -/
def runProgram (spawn : Spawn) (words : List Chars) (takesOutput : Bool) :
    Act (Except FileError Ending × Chars) := do
  Act.flush
  let words := match words with
    | [command] => commandWords command
    | words => words
  let (ending, text) ← if words = [] then pure (.error .notFound, [])
    else Act.ofSteps (Rules.Act.runWords spawn words none takesOutput)
  match ending with
  | .error e => Act.failed e
  | .ok _ => pure ()
  return (ending, text)

/-- Take line ends, or the last character, from the values of places. -/
def cutEnds (engine : Engine) (all : Bool) (targets : List Expr) : Act Scalar := do
  let cut (text : Chars) : Chars :=
    if all then text.dropLast else if text.getLast? = some '\n' then text.dropLast else text
  let counts ← targets.mapM fun target => do
    match target with
    | .array name =>
      let items := (← get).array name
      let shown := items.map fun v => Scalar.text (cut v.toText)
      modify fun m => m.hold ('@' :: name) (.many shown)
      return items.length
    | target =>
      let place ← engine.place target
      let v ← engine.readPlace place
      let after := cut v.toText
      if v.isDefined then engine.writePlace place (.text after)
      return v.toText.length - after.length
  return .ofNat (counts.foldr (· + ·) 0)

/-- A part of a text by its start and its size, which may count from the end; none if
it lies outside. -/
def partOf? (text : Chars) (start : Int) (size? : Option Int) : Option (Nat × Nat) :=
  let length : Int := text.length
  let start := if start < 0 then start + length else start
  if start > length || (start < 0 && size?.isNone && start + length < 0) then none
  else
    let stop := match size? with
      | none => length
      | some n => if n < 0 then length + n else start + n
    let start := max 0 start
    let stop := max start (min length stop)
    some (start.toNat, (stop - start).toNat)

/-- The place of a text in another one from a place on, or -1. -/
def indexFrom (text needle : Chars) (start : Nat) : Int :=
  match (List.range (text.length + 1)).find? fun i =>
      start ≤ i && needle.isPrefixOf (text.drop i) with
  | some i => i
  | none => -1

/-- The last place of a text in another one up to a place, or -1. -/
def lastIndexTo (text needle : Chars) (stop : Nat) : Int :=
  match (List.range (text.length + 1)).reverse.find? fun i =>
      i ≤ stop && needle.isPrefixOf (text.drop i) with
  | some i => i
  | none => -1

/-- What a text of digits in another base is worth. -/
def basedNumber (text : Chars) (isOctal : Bool) : Scalar :=
  let inBase (base : Nat) (digits : Chars) : Scalar :=
    let digits := (digits.filter (· ≠ '_')).takeWhile fun c =>
      (Text.hexValue? c).any (· < base)
    .ofNat (digits.foldl (fun n c => base * n + (Text.hexValue? c).getD 0) 0)
  match text.dropWhile isBlankChar with
  | '0' :: 'x' :: rest | '0' :: 'X' :: rest => inBase 16 rest
  | '0' :: 'b' :: rest | '0' :: 'B' :: rest => if isOctal then inBase 2 rest else inBase 16 text
  | rest => inBase (if isOctal then 8 else 16) rest

/-- The functions of one value. -/
def unaryFunction? (name : String) (v : Scalar) : Option Scalar :=
  let real (f : Float → Float) : Option Scalar :=
    some (.number (Rules.Operator.viaBits f v.toReal))
  let text := v.toText
  let firstTo (change : Char → Char) : Option Scalar :=
    some (.text (match text with
      | c :: rest => change c :: rest
      | [] => []))
  match name with
  | "length" => some (if v.isDefined then .ofNat text.length else .undefined)
  | "uc" => some (.text (text.map upperCase))
  | "lc" | "fc" => some (.text (text.map lowerCase))
  | "ucfirst" => firstTo upperCase
  | "lcfirst" => firstTo lowerCase
  | "chr" => some (.text [Char.ofNat (v.toInt.toNat % 256)])
  | "ord" => some (.ofNat ((text.head?.map Char.toNat).getD 0))
  | "hex" => some (basedNumber text false)
  | "oct" => some (basedNumber text true)
  | "quotemeta" => some (.text (text.flatMap fun c => if isNameChar c then [c] else ['\\', c]))
  | "int" => some (match v.toNumber with
    | .number x => if x.isFinite then .ofInt (x.whole?.getD 0) else .number x
    | v => v)
  | "abs" => some (match v.toNumber with
    | .whole i => .ofInt i.natAbs
    | w => if w.toReal.isLess .zero then .number w.toReal.neg else w)
  | "sqrt" => real Float.sqrt
  | "sin" => real Float.sin
  | "cos" => real Float.cos
  | "exp" => real Float.exp
  | "log" => real Float.log
  | "POSIX::floor" => real Float.floor
  | "POSIX::ceil" => real Float.ceil
  | "ref" => some (.text (match v with
    | .code _ => "CODE".toList
    | _ => []))
  | _ => none

/-- The values to print and the text between and behind them. -/
def printedText (isSay : Bool) (vs : List Scalar) : Act Chars := do
  let m ← get
  return (m.stored [',']).toText.intercalate (vs.map Scalar.toText) ++
    (if isSay then ['\n'] else []) ++ (m.stored ['\\']).toText

/-- Call a function by its name: one of the script, or one that every script has. -/
def callFunction (spawn : Spawn) (engine : Engine) (wantsList : Bool) (name : Chars)
    (arguments : List Expr) : Act (List Scalar) := do
  let all : Act (List Scalar) := do return (← arguments.mapM engine.many).flatten
  let first : Act Scalar := engine.one (arguments.headD (.scalar ['_']))
  let texts : Act (List Chars) := do return (← all).map Scalar.toText
  let one (v : Scalar) : Act (List Scalar) := return [v]
  let listName : Act Chars :=
    match arguments with
    | .array name :: _ | .mine (.array name) :: _ => return name
    | .list [.array name] :: _ => return name
    | [] => do
      return if ((← get).holding? "@_".toList).isSome then ['_'] else "ARGV".toList
    | _ => Act.die "Not an array".toList
  match (← get).functions.lookup name with
  | some index =>
    let vs ← callCode engine index (← all)
    return if wantsList then vs else vs.getLast?.toList
  | none =>
    match String.ofList name, arguments with
    | "print", handle :: rest | "say", handle :: rest => do
      let vs ← if rest.isEmpty then do pure [← Act.scalar ['_']]
        else do pure (← rest.mapM engine.many).flatten
      let text ← printedText (name = "say".toList) vs
      one (.ofBool (← Act.write (← engine.one handle).toText text))
    | "printf", handle :: rest => do
      let vs ← (do return (← rest.mapM engine.many).flatten)
      let format := (vs.headD .undefined).toText
      let text := formatted (format.length + 1) format (vs.drop 1) []
      one (.ofBool (← Act.write (← engine.one handle).toText text))
    | "sprintf", _ => do
      let vs ← all
      let format := (vs.headD .undefined).toText
      one (.text (formatted (format.length + 1) format (vs.drop 1) []))
    | "exit", _ => do
      let status ← if arguments.isEmpty then pure (Scalar.whole 0) else first
      throw (.exit (status.toInt % 256).toNat)
    | "die", _ => do
      let message := (← texts).flatten
      Act.die (if message = [] then "Died".toList else message)
    | "warn", _ => do
      let message := (← texts).flatten
      let message := if message = [] then "Warning: something's wrong".toList else message
      match ← Act.attempt (Act.die message : Act Unit) with
      | .error (.died message) => one (.ofBool (← Act.write "STDERR".toList message))
      | _ => one (.whole 1)
    | "kill", _ => do
      match ← all with
      | [] => one (.whole 0)
      | signal :: targets => one (← kill engine signal targets)
    | "system", _ => do
      let (ending, _) ← runProgram spawn (← texts) false
      let status := waitStatus ending
      modify fun m => m.hold "$?".toList (.one (.whole status))
      receive engine
      one (.whole status)
    | "exec", _ => do
      let (ending, _) ← runProgram spawn (← texts) false
      match ending with
      | .ok ending => throw (.exit ending.status)
      | .error _ => one (.ofBool false)
    | "return", _ => do
      let vs ← all
      throw (.returned vs)
    | "next", _ => throw .nextRound
    | "last", _ => throw .loopEnd
    | "join", _ => do
      match ← texts with
      | separator :: rest => one (.text (separator.intercalate rest))
      | [] => one (.text [])
    | "split", _ => do
      let pattern := arguments.headD (.constant (.text [' ']))
      let rest := arguments.drop 1
      let text := (← engine.one (rest.headD (.scalar ['_']))).toText
      let limit ← match rest[1]? with
        | some e => do pure (← engine.one e).toInt
        | none => pure 0
      let fields ← match pattern with
        | .constant (.text [' ']) => do
          let r ← engine.regex (.constant (.text "\\s+".toList)) []
          pure (fieldsOf r (text.dropWhile isBlankChar) limit)
        | pattern => do
          let r ← engine.regex pattern []
          pure (fieldsOf r text limit)
      return if wantsList then fields else [.ofNat fields.length]
    | "push", _ :: rest | "unshift", _ :: rest => do
      let target ← listName
      let vs ← (do return (← rest.mapM engine.many).flatten)
      let items := (← get).array target
      let items := if name = "push".toList then items ++ vs else vs ++ items
      modify fun m => m.hold ('@' :: target) (.many items)
      one (.ofNat items.length)
    | "pop", _ | "shift", _ => do
      let target ← listName
      let items := (← get).array target
      let isFront : Bool := name = "shift".toList
      let others := if isFront then items.drop 1 else items.dropLast
      modify fun m => m.hold ('@' :: target) (.many others)
      one ((if isFront then items.head? else items.getLast?).getD .undefined)
    | "splice", _ :: rest => do
      let target ← listName
      let items := (← get).array target
      let vs ← (do return (← rest.mapM engine.many).flatten)
      let start := (vs.headD (.whole 0)).toInt
      let start := (if start < 0 then start + items.length else start).toNat
      let count := match vs[1]? with
        | some n => n.toInt.toNat
        | none => items.length
      modify fun m => m.hold ('@' :: target)
        (.many (items.take start ++ vs.drop 2 ++ items.drop (start + count)))
      let taken := (items.drop start).take count
      return if wantsList then taken else taken.getLast?.toList
    | "reverse", _ => do
      let vs ← all
      if wantsList then return vs.reverse
      else
        let vs ← if arguments.isEmpty then do pure [← Act.scalar ['_']] else pure vs
        one (.text (vs.flatMap Scalar.toText).reverse)
    | "keys", .table t :: _ => do
      let entries := (← get).table t
      return if wantsList then entries.map fun (key, _) => .text key else [.ofNat entries.length]
    | "keys", .array a :: _ => do
      return (List.range ((← get).array a).length).map .ofNat
    | "values", .table t :: _ => do
      let entries := (← get).table t
      return if wantsList then entries.map Prod.snd else [.ofNat entries.length]
    | "exists", .entry t key :: _ => do
      let key := (← engine.one key).toText
      one (.ofBool (((← get).table t).lookup key).isSome)
    | "exists", .element a index :: _ => do
      let v := elementAt ((← get).array a) (← engine.one index).toInt
      one (.ofBool v.isDefined)
    | "delete", .entry t key :: _ => do
      let key := (← engine.one key).toText
      let entries := (← get).table t
      modify fun m => m.hold ('%' :: t) (.keyed (entries.filter fun entry => entry.1 ≠ key))
      if t = "ENV".toList then Act.ofSteps (modify fun p => p.unbind key)
      one ((entries.lookup key).getD .undefined)
    | "defined", .array a :: _ => do one (.ofBool (!((← get).array a).isEmpty))
    | "defined", .call f [] :: _ => do
      one (.ofBool (((← get).functions.lookup f).isSome))
    | "defined", _ => do one (.ofBool (← first).isDefined)
    | "scalar", _ => do one (← first)
    | "undef", target :: _ => do
      match target with
      | .array a => modify fun m => m.hold ('@' :: a) (.many [])
      | .table t => modify fun m => m.hold ('%' :: t) (.keyed [])
      | target => do engine.writePlace (← engine.place target) .undefined
      one .undefined
    | "undef", [] => one .undefined
    | "chomp", _ | "chop", _ => do
      let targets := match arguments with
        | [] => [.scalar ['_']]
        | [.list items] => items
        | targets => targets
      one (← cutEnds engine (name = "chop".toList) targets)
    | "substr", target :: start :: rest => do
      let text := (← engine.one target).toText
      let start := (← engine.one start).toInt
      let size? ← match rest with
        | e :: _ => do
          let v ← engine.one e
          pure (if v.isDefined then some v.toInt else none)
        | [] => pure none
      match partOf? text start size? with
      | none => one .undefined
      | some (place, size) =>
        if let some e := rest[1]? then
          let replacement := (← engine.one e).toText
          engine.writePlace (← engine.place target)
            (.text (text.take place ++ replacement ++ text.drop (place + size)))
        one (.text ((text.drop place).take size))
    | "index", text :: needle :: rest | "rindex", text :: needle :: rest => do
      let text := (← engine.one text).toText
      let needle := (← engine.one needle).toText
      let limit? ← match rest with
        | e :: _ => do pure (some (← engine.one e).toInt.toNat)
        | [] => pure none
      one (.whole (if name = "index".toList then indexFrom text needle (limit?.getD 0)
        else lastIndexTo text needle (limit?.getD text.length)))
    | "atan2", y :: x :: _ => do
      one (.number (Scalar.viaBits Float.atan2 (← engine.one y).toReal (← engine.one x).toReal))
    | "POSIX::_exit", _ => throw (.left ((← first).toInt % 256).toNat)
    | "POSIX::abort", _ => do
      one (← kill engine (.whole 6) [.ofNat (← Act.ofSteps get).id])
    | "POSIX::raise", _ => do
      one (← kill engine (← first) [.ofNat (← Act.ofSteps get).id])
    | "List::Util::sum", _ | "List::Util::sum0", _ => do
      let vs ← all
      one (vs.foldl (fun a b => (Scalar.apply "+" a b).toOption.getD a) (.whole 0))
    | "List::Util::max", _ | "List::Util::min", _ => do
      let vs ← all
      let better (a b : Scalar) : Bool :=
        Scalar.order? a b = some (if name.getLast? = some 'x' then .lt else .gt)
      one ((vs.foldl (fun (found : Option Scalar) v => match found with
        | none => some v
        | some w => some (if better w v then v else w)) none).getD .undefined)
    | "open", handle :: rest => do
      let handleName ← match handle with
        | .mine (.scalar n) | .scalar n => do
          declareUnlessKnown handle n
          pure ('$' :: n)
        | e => do pure (← engine.one e).toText
      let words ← (do return (← rest.mapM engine.one).map Scalar.toText)
      let (mode, path) : Chars × Chars := match words with
        | [mode, path] => (mode.takeWhile fun c => c = '<' || c = '>' || c = '+', path)
        | word :: _ =>
          let mode := word.takeWhile fun c => c = '<' || c = '>'
          (mode, (word.drop mode.length).filter fun c => !isBlankChar c)
        | [] => ([], [])
      one (.ofBool (← Act.openHandle handleName mode path))
    | "read", handle :: target :: size :: _ | "sysread", handle :: target :: size :: _ => do
      let handle ← handleOf [handle]
      let size := (← engine.one size).toInt.toNat
      match ← Act.leftOf handle with
      | none => one .undefined
      | some text =>
        modify fun m =>
          { m with inputs := (handle, text.drop size) :: m.inputs.filter fun i => i.1 ≠ handle }
        let place ← engine.place target
        engine.writePlace place (.text (text.take size))
        one (.ofNat (text.take size).length)
    | "close", _ => do
      let handle ← handleOf arguments
      let m ← get
      let isOpen : Bool := (m.inputs.lookup handle).isSome || (m.sinks.lookup handle).isSome ||
        ["STDIN", "STDOUT", "STDERR"].any fun h => h.toList = handle
      set { m with
        inputs := m.inputs.filter fun i => i.1 ≠ handle
        sinks := m.sinks.filter fun s => s.1 ≠ handle }
      one (.ofBool isOpen)
    | "eof", _ => do
      let handle ← if arguments.isEmpty then pure "<>".toList else handleOf arguments
      one (.ofBool (((← Act.leftOf handle).getD []) = []))
    | "unlink", _ => do
      let paths ← texts
      let removed ← paths.filterM fun path => do
        let p ← Act.ofSteps get
        match p.world.files.find p.directory path with
        | .ok place =>
          match p.world.files.node? place with
          | some (.regular ..) =>
            let files := p.world.files.remove place
            Act.ofSteps (set { p with world := { p.world with files } })
            return true
          | _ => return false
        | .error _ => return false
      one (.ofNat removed.length)
    | "getppid", _ => do one (.ofNat ((← Act.ofSteps get).ancestors.headD 1))
    | "time", _ => one (.whole 1700000000)
    | "rand", _ => one (.number (.nearest false 1 2))
    | "wait", _ | "waitpid", _ => one (.whole (-1))
    | "fork", _ | "wantarray", _ => one .undefined
    | "alarm", _ => do
      let before := (← get).alarm
      let seconds := (← first).toInt.toNat
      modify fun m => { m with alarm := seconds }
      one (.ofNat before)
    | "sleep", _ => do
      let seconds ← if arguments.isEmpty then pure 1000000 else do pure (← first).toInt.toNat
      let limit := (← get).alarm
      if limit ≠ 0 && limit ≤ seconds then
        modify fun m => { m with alarm := 0 }
        let _ ← kill engine (.whole 14) [.ofNat (← Act.ofSteps get).id]
        one (.ofNat limit)
      else
        modify fun m => { m with alarm := limit - seconds }
        one (.ofNat seconds)
    | "binmode", _ | "select", _ | "srand", _ | "umask", _ | "mkdir", _
    | "chdir", _ => do
      let _ ← all
      one (.whole 1)
    | named, _ =>
      let v ← first
      match unaryFunction? named v with
      | some v => one v
      | none => Act.die ("Undefined subroutine &main::".toList ++ name ++ " called".toList)
where
  /-- The handle that the arguments name. -/
  handleOf (arguments : List Expr) : Act Chars := do
    match arguments with
    | .scalar n :: _ => return '$' :: n
    | e :: _ => return (← engine.one e).toText
    | [] => return []
  /-- Declare the name of a handle, and keep the handle under it. -/
  declareUnlessKnown (handle : Expr) (n : Chars) : Act Unit := do
    match handle with
    | .mine target => declareAll target
    | _ => pure ()
    modify fun m => m.hold ('$' :: n) (.one (.text ('$' :: n)))

end Engine

end Sigil

end Shell

end TcpJournal
