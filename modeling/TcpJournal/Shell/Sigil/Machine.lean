import TcpJournal.Shell.Builtin.Environment
import TcpJournal.Shell.Lookaround
import TcpJournal.Shell.Program
import TcpJournal.Shell.Sigil.Reader

/-!
# The machine that carries out scripts

A machine holds the variables of a script in scopes, the inner ones in front, the
handles from which it reads and to which it writes, and the last match.  What is
printed is kept until a command starts or the script ends.
-/

namespace TcpJournal

namespace Shell

namespace Sigil

/-- What a name with a sigil holds. -/
inductive Holding where
  | one (v : Scalar)
  | many (vs : List Scalar)
  | keyed (entries : List (List Char × Scalar))
  deriving DecidableEq, Repr

/-- Names with their sigils and what they hold. -/
abbrev Scope := List (Chars × Holding)

/-- The state of a script. -/
structure Machine where
  scopes : List Scope
  functions : List (Chars × Nat)
  codes : Array (List Statement)
  printed : Chars
  inputs : List (Chars × Chars)
  sinks : List (Chars × Nat)
  lastText : Chars
  lastMatch : Option RegexMatch
  ends : List (List Statement)
  errorNumber : Nat
  lineCount : Nat
  line : Nat
  alarm : Nat

/-- Why a statement does not go on; who has left does nothing more. -/
inductive Leap where
  | exit (status : Nat)
  | left (status : Nat)
  | died (message : Chars)
  | nextRound
  | loopEnd
  | returned (vs : List Scalar)
  | killed

/-- What scripts do. -/
abbrev Act := ExceptT Leap (StateT Machine Steps)

namespace Machine

/-- What a name with its sigil holds in the innermost scope that has it. -/
def holding? (m : Machine) (key : Chars) : Option Holding :=
  m.scopes.findSome? fun scope => scope.lookup key

/-- A scope with another meaning of a name. -/
def bound (scope : Scope) (key : Chars) (h : Holding) : Scope :=
  (key, h) :: scope.filter fun entry => entry.1 ≠ key

/-- The scopes with another meaning of a name where it is known, or else in the
outermost one. -/
def boundIn (key : Chars) (h : Holding) : List Scope → List Scope
  | [] => [[(key, h)]]
  | [scope] => [bound scope key h]
  | scope :: rest =>
    if (scope.lookup key).isSome then bound scope key h :: rest else scope :: boundIn key h rest

/-- The machine with another meaning of a name. -/
def hold (m : Machine) (key : Chars) (h : Holding) : Machine :=
  { m with scopes := boundIn key h m.scopes }

/-- The machine with a name of its own in the innermost scope. -/
def declare (m : Machine) (key : Chars) (h : Holding) : Machine :=
  match m.scopes with
  | scope :: rest => { m with scopes := bound scope key h :: rest }
  | [] => { m with scopes := [[(key, h)]] }

/-- The list of a name. -/
def array (m : Machine) (name : Chars) : List Scalar :=
  match m.holding? ('@' :: name) with
  | some (.many vs) => vs
  | _ => []

/-- The entries of the table of a name. -/
def table (m : Machine) (name : Chars) : List (Chars × Scalar) :=
  match m.holding? ('%' :: name) with
  | some (.keyed entries) => entries
  | _ => []

/-- The value of a name that is stored. -/
def stored (m : Machine) (name : Chars) : Scalar :=
  match m.holding? ('$' :: name) with
  | some (.one v) => v
  | _ => .undefined

/-- The text of the last match that a name of a value stands for. -/
def matched? (m : Machine) (name : Chars) : Option Scalar :=
  match m.lastMatch with
  | none => none
  | some found =>
    match name with
    | ['&'] => some (.text (found.groupText m.lastText 0))
    | ['\x60'] => some (.text (m.lastText.take found.start))
    | ['\''] => some (.text (m.lastText.drop found.stop))
    | ['+'] =>
      let last := found.groups.foldl (fun n g => max n g.1) 0
      some (.text (found.groupText m.lastText last))
    | name =>
      let n := Decimal.value name
      if (found.groups.lookup n).isSome then some (.text (found.groupText m.lastText n)) else none

/-- The words of an error by its number. -/
def errorText (n : Nat) : Chars :=
  match FileError.ofNumber? n with
  | some e => e.message.toList
  | none =>
    if n = 3 then "No such process".toList else if n = 22 then "Invalid argument".toList else []

/-- The value of a name. -/
def scalar (m : Machine) (p : Process) (name : Chars) : Scalar :=
  match name with
  | ['$'] => .ofNat p.id
  | ['.'] => if m.lineCount = 0 then .undefined else .ofNat m.lineCount
  | ['!'] => .text (errorText m.errorNumber)
  | ['0'] => m.stored name
  | ['&'] | ['\x60'] | ['\''] | ['+'] => (m.matched? name).getD .undefined
  | name =>
    if name ≠ [] && name.all Text.isDigit then (m.matched? name).getD .undefined else m.stored name

end Machine

namespace Act

/-- Do a step of the process. -/
def ofSteps {α : Type} (steps : Steps α) : Act α :=
  ExceptT.lift (StateT.lift steps)

/-- How something ends, without its leap. -/
def attempt {α : Type} (body : Act α) : Act (Except Leap α) :=
  ExceptT.lift body.run

/-- Give up with a message, which tells the place unless it ends a line. -/
def die {α : Type} (message : Chars) : Act α := do
  let m ← get
  let place := " at ".toList ++ (m.stored ['0']).toText ++ " line ".toList ++
    Decimal.digits m.line ++ ['.', '\n']
  throw (.died (if message.getLast? = some '\n' then message else message ++ place))

/-- One step is taken; when there are none left, the script stops. -/
def tick : Act Unit := do
  let p ← ofSteps get
  if p.world.steps = 0 then throw .killed
  else ofSteps (set { p with world := { p.world with steps := p.world.steps - 1 } })

/-- Write what has been printed so far. -/
def flush : Act Unit := do
  let m ← get
  if m.printed ≠ [] then
    set { m with printed := [] }
    let _ ← ofSteps (Steps.write 1 m.printed.reverse)

/-- The value of a name. -/
def scalar (name : Chars) : Act Scalar := do
  return (← get).scalar (← ofSteps get) name

/-- Write a text to a handle; the answer says whether there is one. -/
def write (handle text : Chars) : Act Bool := do
  match String.ofList handle with
  | "STDOUT" =>
    modify fun m => { m with printed := text.reverse ++ m.printed }
    if ((← get).stored ['|']).isTrue then flush
    return true
  | "STDERR" =>
    let _ ← ofSteps (Steps.write 2 text)
    return true
  | _ =>
    let p ← ofSteps get
    match (← get).sinks.lookup handle with
    | none => return false
    | some index =>
      match p.world.streams[index]? with
      | none => return false
      | some s =>
        match s.write text p.world.files with
        | .error _ => return false
        | .ok (s, files) =>
          let p := p.setStream index s
          ofSteps (set { p with world := { p.world with files } })
          return true

/-- Keep the number of an error, and answer that something failed. -/
def failed (e : FileError) : Act Unit :=
  modify fun m => { m with errorNumber := e.number }

/-- Open the next file of the arguments for reading, or the standard input where there
were none. -/
def openNext : Act Bool := do
  let m ← get
  match m.array "ARGV".toList with
  | [] =>
    if (m.inputs.lookup "<>".toList).isSome then return false
    else
      let text ← match ← ofSteps (Steps.read 0 none) with
        | .ok text => pure text
        | .error _ => pure []
      modify fun m => { m with inputs := ("<>".toList, text) :: m.inputs }
      return true
  | first :: rest =>
    modify fun m => m.hold "@ARGV".toList (.many rest)
    let text ← match ← ofSteps (Steps.readFile first.toText) with
      | .ok text => pure text
      | .error e => do
        failed e
        let _ ← write "STDERR".toList ("Can't open ".toList ++ first.toText ++ ": ".toList ++
          e.message.toList ++ ".\n".toList)
        pure []
    modify fun m =>
      (m.hold "$ARGV".toList (.one first)) |> fun m =>
        { m with
          inputs := ("<>".toList, text) :: m.inputs.filter fun i => i.1 ≠ "<>".toList }
    return true

/-- The text that a handle has left, where it can be read from. -/
def leftOf (handle : Chars) : Act (Option Chars) := do
  let m ← get
  match m.inputs.lookup handle with
  | some text => return some text
  | none =>
    if handle = "STDIN".toList then
      match ← ofSteps (Steps.read 0 none) with
      | .ok text =>
        modify fun m => { m with inputs := (handle, text) :: m.inputs }
        return some text
      | .error _ => return none
    else return none

/-- The first line of a text by the sign that ends lines, and what follows it. -/
def splitRecord (separator : Scalar) (text : Chars) : Chars × Chars :=
  match separator.toText with
  | [] =>
    if separator = .undefined then (text, [])
    else
      let text := text.dropWhile (· = '\n')
      let stop := ((List.range text.length).find? fun i => text[i]? = some '\n' &&
        text[i + 1]? = some '\n').map (· + 2)
      let n := stop.getD text.length
      (text.take n, (text.drop n).dropWhile (· = '\n'))
  | separator =>
    let stop := ((List.range text.length).find? fun i =>
      separator.isPrefixOf (text.drop i)).map (· + separator.length)
    let n := stop.getD text.length
    (text.take n, text.drop n)

/-- The first line of a text where lines end as usual. -/
def firstRecord (separator : Scalar) (text : Chars) : Chars × Chars :=
  if separator = .text ['\n'] then Steps.firstLine text else splitRecord separator text

/-- The next line of a handle. -/
def readLine : Nat → Chars → Act (Option Chars)
  | 0, _ => return none
  | fuel + 1, handle => do
    let handle := if handle = [] || handle = "ARGV".toList then "<>".toList else handle
    match ← leftOf handle with
    | some (c :: rest) =>
      let (record, rest) := firstRecord ((← get).stored ['/']) (c :: rest)
      modify fun m =>
        { m with
          lineCount := m.lineCount + 1
          inputs := (handle, rest) :: m.inputs.filter fun i => i.1 ≠ handle }
      return some record
    | _ => if handle = "<>".toList && (← openNext) then readLine fuel handle else return none

/-- Open a file for a handle by a mode; the answer says whether that worked. -/
def openHandle (handle mode path : Chars) : Act Bool := do
  let opening : Steps.Opening :=
    match mode with
    | ['>', '>'] => .appending
    | ['>'] => .writing
    | _ => .reading
  if mode.head? = some '<' || mode = [] then
    match ← ofSteps (Steps.readFile path) with
    | .ok text =>
      modify fun m =>
        { m with inputs := (handle, text) :: m.inputs.filter fun i => i.1 ≠ handle }
      return true
    | .error e =>
      failed e
      return false
  else
    match ← ofSteps (Steps.openFile opening path) with
    | .ok index =>
      modify fun m => { m with sinks := (handle, index) :: m.sinks.filter fun s => s.1 ≠ handle }
      return true
    | .error e =>
      failed e
      return false

/-- Do something in a scope of its own. -/
def inScope {α : Type} (body : Act α) : Act α := do
  modify fun m => { m with scopes := [] :: m.scopes }
  let result ← attempt body
  modify fun m => { m with scopes := m.scopes.drop 1 }
  match result with
  | .ok a => return a
  | .error leap => throw leap

/-- Change the scopes for something, and back behind it. -/
def withScopes {α : Type} (scopes : List Scope → List Scope) (body : Act α) : Act α := do
  let outer := (← get).scopes
  modify fun m => { m with scopes := scopes m.scopes }
  let result ← attempt body
  modify fun m =>
    { m with scopes := outer.dropLast ++ (m.scopes.getLast?.map fun s => [s]).getD [] }
  match result with
  | .ok a => return a
  | .error leap => throw leap

end Act

/-- The node of an expression in which a sign for any character leaves out line ends,
and the end of a text is also in front of its last line end. -/
def fittedNode (dotAll byLine : Bool) : RegexNode → RegexNode
  | .anyChar => if dotAll then .anyChar else .oneOf true [.range '\n' '\n']
  | .textEnd | .lineEnd =>
    if byLine then .lineEnd
    else .either .textEnd (.ahead false (.both (.char '\n') .textEnd))
  | .textStart | .lineStart => if byLine then .lineStart else .textStart
  | .both l r => .both (fittedNode dotAll byLine l) (fittedNode dotAll byLine r)
  | .either l r => .either (fittedNode dotAll byLine l) (fittedNode dotAll byLine r)
  | .repeated b n m => .repeated (fittedNode dotAll byLine b) n m
  | .reluctant b n m => .reluctant (fittedNode dotAll byLine b) n m
  | .atomic b => .atomic (fittedNode dotAll byLine b)
  | .ahead n b => .ahead n (fittedNode dotAll byLine b)
  | .behind n b => .behind n (fittedNode dotAll byLine b)
  | .group i b => .group i (fittedNode dotAll byLine b)
  | node => node

/-- The expression that a text with flags spells. -/
def regexOf (text flags : Chars) : Except Chars Regex :=
  let shared := flags.filter fun c => c = 'i' || c = 'x'
  let text := if shared = [] then text else "(?".toList ++ shared ++ ')' :: text
  let text := withoutCaret text.length text
  (Regex.parseLookaround text).map fun r =>
    let byLine : Bool := flags.contains 'm'
    { r with node := fittedNode (flags.contains 's') byLine r.node, byLine := byLine }
where
  /-- The text without the signs that take flags back in groups. -/
  withoutCaret : Nat → Chars → Chars
    | 0, text => text
    | fuel + 1, text =>
      match text with
      | '(' :: '?' :: '^' :: rest => '(' :: '?' :: withoutCaret fuel rest
      | c :: rest => c :: withoutCaret fuel rest
      | [] => []

/-- All matches in a text, from left to right. -/
def allMatches (r : Regex) (text : Array Char) : Nat → Nat → List RegexMatch
  | 0, _ => []
  | fuel + 1, place =>
    match r.search text place with
    | none => []
    | some m =>
      m :: (if m.stop ≥ text.size && m.stop = m.start then []
        else allMatches r text fuel (if m.stop = m.start then m.stop + 1 else m.stop))

/-- The fields of a text between matches; groups are fields of their own, and those at
the end that are empty are left out unless a number of fields is given. -/
def fieldsOf (r : Regex) (text : Chars) (limit : Int) : List Scalar :=
  let found := (allMatches r text.toArray (text.length + 2) 0).filter fun m =>
    m.stop > 0 && m.start < text.length && !(m.start = 0 && m.stop = 0)
  let found := if limit > 0 then found.take (limit.toNat - 1) else found
  let groupsOf (m : RegexMatch) : List Scalar :=
    (List.range r.groupCount).map fun i =>
      if (m.groups.lookup (i + 1)).isSome then .text (m.groupText text (i + 1)) else .undefined
  let (start, fields) := found.foldl
    (fun (start, fields) m =>
      (m.stop, fields ++ .text ((text.take m.start).drop start) :: groupsOf m)) (0, [])
  let all := fields ++ [.text (text.drop start)]
  if text = [] then []
  else if limit = 0 then (all.reverse.dropWhile fun v => v.toText = []).reverse
  else all

/-- A text by a format with values. -/
def formatted : Nat → Chars → List Scalar → Chars → Chars
  | 0, _, _, before => before.reverse
  | _, [], _, before => before.reverse
  | fuel + 1, '%' :: '%' :: rest, values, before => formatted fuel rest values ('%' :: before)
  | fuel + 1, '%' :: rest, values, before =>
    let count := Conversion.starCountBy .sized rest
    let stars := (values.take count).map Scalar.toInt
    let values := values.drop count
    match Conversion.readBy? .sized rest stars with
    | none => before.reverse ++ '%' :: rest
    | some (v, after, _) =>
      let value := values.headD .undefined
      let shown? : Option Chars :=
        if v.letter = 'd' || v.letter = 'i' then
          some (match value.toNumber with
            | .number .nan => v.ofInt (-1)
            | _ => v.ofInt (min (2 ^ 63 - 1) value.toInt))
        else if "ouxX".toList.contains v.letter then some (v.ofNat value.toWord)
        else if v.letter = 'b' || v.letter = 'B' then
          some (v.inField (v.has '0') [] (v.wholeDigits (Nat.toDigits 2 value.toWord)))
        else if "eEfFgG".toList.contains v.letter then some (v.ofNumber value.toReal)
        else if v.letter = 's' then some (v.ofText value.toText)
        else if v.letter = 'c' then some (v.inField false [] [Char.ofNat (value.toWord % 256)])
        else none
      match shown? with
      | some shown => formatted fuel after (values.drop 1) (shown.reverse ++ before)
      | none => formatted fuel rest values ('%' :: before)
  | fuel + 1, c :: rest, values, before => formatted fuel rest values (c :: before)

end Sigil

end Shell

end TcpJournal
