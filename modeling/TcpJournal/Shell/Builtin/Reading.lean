import TcpJournal.Shell.Builtin.Declaration

/-!
# Reading into variables

The commands of the extended shell that read: a line, or text up to another
delimiter or of a length, into variables or a list, and all lines into a list.
-/

namespace TcpJournal

namespace Shell

namespace Builtin

/-- How text is read. -/
structure ReadingOptions where
  isRaw : Bool
  list : Option Chars
  delimiter : Char
  count : Option Nat
  isExact : Bool
  descriptor : Nat
  names : List Chars
  deriving DecidableEq, Repr

/-- The options of a reading, of which some take the rest of the word or the next
one. -/
def readingOptions : Nat → List Chars → Except Char ReadingOptions
  | 0, names => .ok ⟨false, none, '\n', none, false, 0, names⟩
  | fuel + 1, arguments =>
    match arguments with
    | ['-', '-'] :: names => .ok ⟨false, none, '\n', none, false, 0, names⟩
    | ('-' :: letter :: letters) :: rest =>
      if letter = 'r' || letter = 's' || letter = 'e' then
        let more := if letters = [] then rest else ('-' :: letters) :: rest
        (readingOptions fuel more).map fun o => { o with isRaw := o.isRaw || letter = 'r' }
      else if "adnNptui".toList.contains letter then
        let (value, rest) := if letters = [] then (rest.headD [], rest.drop 1) else (letters, rest)
        (readingOptions fuel rest).map fun o =>
          match letter with
          | 'a' => { o with list := some value }
          | 'd' => { o with delimiter := value.headD '\x00' }
          | 'n' => { o with count := some (Decimal.value value) }
          | 'N' => { o with count := some (Decimal.value value), isExact := true }
          | 'u' => { o with descriptor := Decimal.value value }
          | _ => o
      else .error letter
    | names => .ok ⟨false, none, '\n', none, false, 0, names⟩

/-- Read characters, each with the mark that a backslash protects it; the flag says
whether the end was reached that was asked for. -/
def readMarked (o : ReadingOptions) : Nat → Nat → List MarkedChar →
    Steps (List MarkedChar × Bool)
  | 0, _, before => return (before.reverse, false)
  | fuel + 1, taken, before => do
    if o.count = some taken then return (before.reverse, true)
    else
      match ← Steps.read o.descriptor (some 1) with
      | .ok [c] =>
        if c = o.delimiter && !o.isExact then return (before.reverse, true)
        else if c = '\\' && !o.isRaw then
          match ← Steps.read o.descriptor (some 1) with
          | .ok [d] =>
            if d = '\n' then readMarked o fuel taken before
            else readMarked o fuel (taken + 1) ((d, true) :: before)
          | _ => return (before.reverse, false)
        else if c = '\x00' then readMarked o fuel taken before
        else readMarked o fuel (taken + 1) ((c, false) :: before)
      | _ => return (before.reverse, false)

/-- The most characters that are read. -/
def mostRead : Nat := 1000000

/-- All values in a text, separated as fields are. -/
def allValues (ifs : Chars) : Nat → List MarkedChar → List Chars
  | 0, _ => []
  | _, [] => []
  | fuel + 1, text =>
    let (value, rest) := splitValue ifs text
    value :: allValues ifs fuel rest

/-- Give a name that was asked for a value; the status says whether it is one. -/
def assignRead (name value : Chars) : Action Nat := do
  match splitReference? name with
  | some (base, subscript) =>
    assignElement base (← keyOf base subscript) value
    return 0
  | none =>
    if isName name then
      Action.assign name value
      return 0
    else
      Action.warn ('\x60' :: name ++ "': not a valid identifier".toList)
      return 1

/-- Read into variables. -/
def readExtended (arguments : List Chars) : Action Nat := do
  match readingOptions (arguments.length + (arguments.flatten).length + 1) arguments with
  | .error letter =>
    Action.warn ('-' :: letter :: ": invalid option".toList)
    return 2
  | .ok o =>
    let (marks, ended) ← readMarked o mostRead 0 []
    let ifs := separators (← get)
    let isBlank (m : MarkedChar) : Bool :=
      !m.2 && ifs.contains m.1 && (m.1 = ' ' || m.1 = '\t' || m.1 = '\n')
    let trimmed := marks.dropWhile isBlank
    let status := if ended then 0 else 1
    match o.list, o.names with
    | some name, _ =>
      let values := allValues ifs (trimmed.length + 1) trimmed
      let v := ((← get).binding? name).getD .fresh
      modify fun p =>
        p.bind name { v with value := none, elements := some (Elements.ofTexts values) }
      return status
    | none, [] =>
      Action.assign "REPLY".toList (marks.map Prod.fst)
      return status
    | none, first :: others =>
      let values :=
        if o.isExact then marks.map Prod.fst :: others.map fun _ => []
        else lineValues ifs o.names.length trimmed
      let values := values ++ List.replicate (o.names.length - values.length) []
      let results ← ((first :: others).zip values).mapM fun (name, value) => assignRead name value
      return results.foldl max status

/-- Text cut behind each delimiter. -/
def cutBehind (delimiter : Char) : Nat → Chars → List Chars
  | 0, _ => []
  | _, [] => []
  | fuel + 1, text =>
    let piece := text.takeWhile (· ≠ delimiter)
    match text.drop piece.length with
    | c :: rest => (piece ++ [c]) :: cutBehind delimiter fuel rest
    | [] => [piece]

/-- Read all lines into a list. -/
def readLines (arguments : List Chars) : Action Nat := do
  let rec options : Nat → List Chars → List (Char × Chars) × List Chars
    | 0, words => ([], words)
    | fuel + 1, words =>
      match words with
      | ['-', '-'] :: rest => ([], rest)
      | ('-' :: letter :: letters) :: rest =>
        if letter = 't' then
          let (found, names) :=
            options fuel (if letters = [] then rest else ('-' :: letters) :: rest)
          (('t', []) :: found, names)
        else
          let (value, rest) :=
            if letters = [] then (rest.headD [], rest.drop 1) else (letters, rest)
          let (found, names) := options fuel rest
          ((letter, value) :: found, names)
      | names => ([], names)
  let (given, names) := options (arguments.length + (arguments.flatten).length + 1) arguments
  let number? (letter : Char) : Option Nat := (given.lookup letter).map Decimal.value
  let delimiter := ((given.lookup 'd').map fun t => t.headD '\x00').getD '\n'
  let name := names.headD "MAPFILE".toList
  let text ← match ← Steps.read ((number? 'u').getD 0) none with
    | .ok text => pure text
    | .error _ => pure []
  let lines := (cutBehind delimiter (text.length + 1) text).drop ((number? 's').getD 0)
  let lines := match number? 'n' with
    | some 0 | none => lines
    | some n => lines.take n
  let strip (line : Chars) : Chars :=
    if (given.lookup 't').isSome && line.getLast? = some delimiter then line.dropLast else line
  let v := ((← get).binding? name).getD .fresh
  let origin := (number? 'O').getD 0
  let start := if (number? 'O').isSome then v.toElements else Elements.none false
  let e := ((lines.map strip).zipIdx origin).foldl
    (fun (e : Elements) (line, n) => e.put (Decimal.digits n) line) start
  modify fun p => p.bind name { v with value := none, elements := some e }
  return 0

end Builtin

end Shell

end TcpJournal
