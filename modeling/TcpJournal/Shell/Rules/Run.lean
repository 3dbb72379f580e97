import TcpJournal.Shell.Rules.Grammar
import TcpJournal.Shell.Rules.Machine
import TcpJournal.Shell.WallClock

/-!
# Carrying out rules

Expressions and statements are evaluated over an engine for the parts inside
them; the engine of a depth is one step over the engine of the depth below.
The rules at the start run first, then for each record those that choose it,
and last those at the end.
-/

namespace TcpJournal

namespace Shell

namespace Rules

/-- A way to evaluate expressions and carry out statements. -/
structure Engine where
  value : Expr → Act Value
  perform : Statement → Act Unit

namespace Engine

/-- The text for an expression. -/
def text (engine : Engine) (e : Expr) : Act Chars := do
  let v ← engine.value e
  return (← get).textOf v

/-- The number for an expression. -/
def number (engine : Engine) (e : Expr) : Act Binary64 := do
  return (← engine.value e).toNumber

/-- The subscript that expressions make. -/
def subscript (engine : Engine) (subscripts : List Expr) : Act Chars := do
  let texts ← subscripts.mapM fun e => do
    let v ← engine.value e
    let m ← get
    return match v with
      | .number x => Value.numberText m.conversion x
      | v => m.textOf v
  return ((← get).globalText "SUBSEP").intercalate texts

/-- The place that an expression names. -/
def place (engine : Engine) (e : Expr) : Act Place := do
  match e with
  | .name n => return .name n
  | .field index =>
    let x ← engine.number index
    match x.whole? with
    | some i =>
      if i < 0 then Act.fault ("negative field index $".toList ++ Decimal.ofInt i)
      else return .field i.toNat
    | none => Act.fault "field index too large".toList
  | .element array subscripts =>
    let subscript ← engine.subscript subscripts
    return .element (← Act.array array) subscript
  | _ => Act.fault "no place for a value".toList

/-- The expression that a pattern is: one that is written out, or a text. -/
def pattern (engine : Engine) (e : Expr) : Act Regex := do
  match e with
  | .regex r => return r
  | .grouped [.regex r] => return r
  | e =>
    match Regex.parse .pattern (← engine.text e) with
    | .ok r => return r
    | .error _ => throw (.failure "regular expression compile failed".toList)

end Engine

/-- The whole part of a number within the words of thirty-two bits: no greater
than a limit, and no less than the opposite of the greatest word with a sign. -/
def wholeWithin (high : Int) (x : Binary64) : Int :=
  let low : Int := -(2 ^ 31 - 1)
  match x with
  | .infinite negative => if negative then low else high
  | x => max low (min high (x.whole?.getD low))

/-- A text by a format with values, and the error that stopped it.  The format ends in
front of its first zero character. -/
def formatted (m : Machine) (name : String) (format : Chars) :
    Nat → Chars → List Value → Chars → Chars × Option Chars
  | 0, _, _, before => (before.reverse, none)
  | _, [], _, before => (before.reverse, none)
  | _, '\x00' :: _, _, before => (before.reverse, none)
  | fuel + 1, '%' :: '%' :: rest, values, before =>
    formatted m name format fuel rest values ('%' :: before)
  | fuel + 1, '%' :: rest, values, before =>
    let count := Conversion.starCount rest
    let stars := (values.take count).map fun v => (v.toNumber.whole?.getD 0)
    let missing := "not enough arguments passed to ".toList ++ name.toList ++ "(\"".toList ++
      format ++ "\")".toList
    match Conversion.read? rest stars, values.drop count with
    | none, _ | _, [] => (before.reverse, some missing)
    | some (v, rest, _), value :: values =>
      let whole (high : Int) : Int := wholeWithin high value.toNumber
      let shown? : Option Chars :=
        if v.letter = 'd' || v.letter = 'i' then some (v.ofInt (whole (2 ^ 31 - 1)))
        else if "ouxX".toList.contains v.letter then
          some (v.ofNat (whole (2 ^ 32 - 1) % 2 ^ 32).toNat)
        else if "eEfFgG".toList.contains v.letter then some (v.ofNumber value.toNumber)
        else if v.letter = 's' then some (v.ofText (m.textOf value))
        else if v.letter = 'c' then
          let byte (x : Binary64) : Chars := [Char.ofNat ((x.whole?.getD 0) % 256).toNat]
          let chars := match value with
            | .number x => byte x
            | .input t =>
              match Value.numeral? t with
              | some x => byte x
              | none => [t.headD '\x00']
            | .text t => [t.headD '\x00']
            | .unset => ['\x00']
          some (v.inField false [] chars)
        else none
      match shown? with
      | some shown => formatted m name format fuel rest values (shown.reverse ++ before)
      | none =>
        (before.reverse, some ("improper conversion in ".toList ++ name.toList ++ "(\"".toList ++
          format ++ "\")".toList))
  | fuel + 1, c :: rest, values, before =>
    formatted m name format fuel rest values (c :: before)

/-- The text that takes the place of a match. -/
def replacementFor (found : Chars) : Chars → Chars
  | [] => []
  | '\\' :: '&' :: rest => '&' :: replacementFor found rest
  | '\\' :: '\\' :: rest => '\\' :: replacementFor found rest
  | '&' :: rest => found ++ replacementFor found rest
  | c :: rest => c :: replacementFor found rest

/-- A text with its matches replaced, all of them or the first, and their
number. -/
def replaceMatches (r : Regex) (replacement : Chars) (all : Bool) (text : Array Char) :
    Nat → Nat → Option Nat → Nat → Chars → Chars × Nat
  | 0, place, _, count, before => (before.reverse ++ text.toList.drop place, count)
  | fuel + 1, place, lastStop, count, before =>
    let rest : Chars := text.toList.drop place
    match r.search text place with
    | none => (before.reverse ++ rest, count)
    | some m =>
      let found := (text.toList.take m.stop).drop m.start
      let skipped := (text.toList.take m.start).drop place
      let isRepeated : Bool := m.start = m.stop && lastStop = some m.start
      let piece := if isRepeated then [] else replacementFor found replacement
      let count := if isRepeated then count else count + 1
      let before := piece.reverse ++ skipped.reverse ++ before
      if !all then (before.reverse ++ text.toList.drop m.stop, count)
      else if m.stop = m.start then
        match text[m.stop]? with
        | none => (before.reverse, count)
        | some c => replaceMatches r replacement all text fuel (m.stop + 1) none count (c :: before)
      else replaceMatches r replacement all text fuel m.stop (some m.stop) count before

/-- The place of a text in another one, counted from 1, or 0. -/
def indexOf (needle : Chars) : Nat → Chars → Nat
  | place, text =>
    if needle.isPrefixOf text then place
    else
      match text with
      | [] => 0
      | _ :: rest => indexOf needle (place + 1) rest

/-- A part of a text by the place of its start and its length; a place in front
of the first one lengthens the part by its distance from zero. -/
def partOf (text : Chars) (start : Int) (length : Option Int) : Chars :=
  let rest := text.drop (start - 1).toNat
  match length with
  | none => rest
  | some n => rest.take (if start < 1 then n - start else n).toNat

/-- The functions that every script has. -/
def builtin (spawn : Spawn) (engine : Engine) (name : String) (arguments : List Expr) :
    Act Value := do
  let number (i : Int) : Act Value := return .number (.ofInt i)
  let whole (e : Expr) (default_ : Int) : Act Int := do
    match ← engine.number e with
    | .infinite negative => return if negative then -(2 ^ 31) else 2 ^ 31
    | x => return x.whole?.getD default_
  let viaBits (f : Float → Float) : Act Value := do
    match arguments with
    | e :: _ => return .number (Operator.viaBits f (← engine.number e))
    | [] => Act.fault "not enough arguments".toList
  match name, arguments with
  | "length", [] =>
    let m ← get
    number (m.textOf m.record).length
  | "length", .name n :: _ =>
    let m ← get
    match m.binding? n with
    | some (.array id) | some (.undecided id) => number (m.table id).length
    | _ => number (← engine.text (.name n)).length
  | "length", e :: _ => number (← engine.text e).length
  | "substr", [e, start] =>
    let text ← engine.text e
    return .text (partOf text (← whole start 1) none)
  | "substr", e :: start :: length :: _ =>
    let text ← engine.text e
    let start ← whole start 1
    return .text (partOf text start (some (← whole length 0)))
  | "index", e :: needle :: _ =>
    let text ← engine.text e
    number (indexOf (← engine.text needle) 1 text)
  | "split", e :: .name array :: rest =>
    let text ← engine.text e
    let parts ← match rest with
      | .regex r :: _ =>
        pure (.ok (if text = [] then [] else splitByRegex r text.toArray (text.length + 1) 0 0))
      | separator :: _ => pure (splitText (← engine.text separator) false text)
      | [] => do
        let m ← get
        pure (splitText (m.globalText "FS") (m.globalText "RS" = []) text)
    match parts with
    | .error _ => throw (.failure "regular expression compile failed".toList)
    | .ok parts =>
      let id ← Act.array array
      let table : Table := (parts.zipIdx 1).foldl
        (fun table (part, i) => (Decimal.digits i, .input part) :: table) []
      modify fun m => m.setTable id table
      number parts.length
  | "sub", pattern :: replacement :: rest | "gsub", pattern :: replacement :: rest =>
    let r ← engine.pattern pattern
    let replacement ← engine.text replacement
    let target := rest.headD (.field (.number .zero))
    let place ← engine.place target
    let text := (← get).textOf (← Act.readPlace place)
    let (after, count) :=
      replaceMatches r replacement (name = "gsub") text.toArray (text.length + 2) 0 none 0 []
    if count > 0 then Act.writePlace place (.text after)
    number count
  | "match", e :: pattern :: _ =>
    let text ← engine.text e
    let r ← engine.pattern pattern
    let (start, length) : Int × Int := match r.search text.toArray 0 with
      | some m => (m.start + 1, m.stop - m.start)
      | none => (0, -1)
    modify fun m =>
      (m.setScalar "RSTART" (.number (.ofInt start))).setScalar "RLENGTH" (.number (.ofInt length))
    number start
  | "sprintf", format :: rest =>
    let format ← engine.text format
    let values ← rest.mapM engine.value
    match formatted (← get) name format (format.length + 1) format values [] with
    | (text, none) => return .text text
    | (_, some reason) => Act.fault reason
  | "sin", _ => viaBits Float.sin
  | "cos", _ => viaBits Float.cos
  | "exp", _ => viaBits Float.exp
  | "log", _ => viaBits Float.log
  | "sqrt", _ => viaBits Float.sqrt
  | "atan2", e :: f :: _ =>
    let y ← engine.number e
    let x ← engine.number f
    return .number (.ofBits (Float.atan2 (Float.ofBits y.toBits) (Float.ofBits x.toBits)).toBits)
  | "int", e :: _ =>
    let x ← engine.number e
    match x.whole? with
    | some i => number i
    | none => return .number x
  | "tolower", e :: _ => return .text ((← engine.text e).map lowerCase)
  | "toupper", e :: _ => return .text ((← engine.text e).map upperCase)
  | "system", e :: _ =>
    let command ← engine.text e
    Act.flush
    let (status, _) ← Act.ofSteps (Act.runCommand spawn command none false)
    number status
  | "close", e :: _ => number (← Act.close spawn (← engine.text e))
  | "fflush", [] => do
    Act.flush
    number 0
  | "fflush", e :: _ => do
    let name ← engine.text e
    Act.flush
    let m ← get
    number (if (m.sinks.lookup name).isSome || name = "/dev/stdout".toList then 0 else -1)
  | "rand", _ => return .number (.nearest false 1 2)
  | "srand", _ =>
    let seed ← match arguments with
      | e :: _ => engine.value e
      | [] => pure (.number (.ofInt clockSeconds))
    let before := (← get).seed
    modify fun m => { m with seed }
    return before
  | "systime", _ => number clockSeconds
  | "mktime", e :: _ =>
    let parts := (blankWords (← engine.text e)).map fun word =>
      ((leadingNumber? word).bind fun (x, _) => x.whole?).getD 0
    number ((secondsOf parts).getD (-1))
  | "strftime", _ =>
    let format ← match arguments with
      | e :: _ => engine.text e
      | [] => pure "%c".toList
    let seconds ← match arguments with
      | _ :: e :: _ => whole e 0
      | _ => pure clockSeconds
    match Instant.make? seconds 0 with
    | some t => return .text (clockText t (format.length + 1) format)
    | none => return .text []
  | _, _ => Act.fault ("wrong number of arguments in call to ".toList ++ name.toList)

/-- What a parameter of a function stands for, given its argument. -/
def argumentBinding (engine : Engine) (e : Expr) : Act Binding := do
  match e with
  | .name n =>
    let m ← get
    match m.binding? n with
    | some (.array id) => return .array id
    | some (.undecided id) => return .undecided id
    | some (.scalar .unset) | none =>
      let id := m.nextArray
      set ({ m with nextArray := id + 1 }.bind n (.undecided id))
      return .undecided id
    | some (.scalar v) => return .scalar v
  | e => return .scalar (← engine.value e)

/-- Call a function of the script. -/
def call (engine : Engine) (name : Chars) (arguments : List Expr) : Act Value := do
  match (← get).script.functions.find? fun f => f.name = name with
  | none => Act.fault ("function ".toList ++ name ++ " never defined".toList)
  | some f =>
    let given ← arguments.mapM (argumentBinding engine)
    let m ← get
    let missing := f.parameters.length - given.length
    let fresh := (List.range missing).map fun i => Binding.undecided (m.nextArray + i)
    set
      { m with
        locals := f.parameters.zip (given ++ fresh)
        nextArray := m.nextArray + missing }
    let result ← Act.attempt (engine.perform f.body)
    modify fun after => { after with locals := m.locals }
    match result with
    | .ok () => return .unset
    | .error (.answer v) => return v
    | .error leap => throw leap

/-- Read a record. -/
def readRecord (spawn : Spawn) (engine : Engine) (source : RecordSource)
    (operand target : Option Expr) : Act Value := do
  let store (record : Chars) : Act Value := do
    match target with
    | none => Act.setRecord (.input record)
    | some e => Act.writePlace (← engine.place e) (.input record)
    return .number (.ofInt 1)
  match source, operand with
  | .main, _ | _, none =>
    match ← Act.nextRecord with
    | some record => store record
    | none => return .number .zero
  | source, some operand =>
    match ← Act.nextFrom spawn source (← engine.text operand) with
    | .ok (some record) => store record
    | .ok none => return .number .zero
    | .error _ => return .number (.ofInt (-1))

/-- The value of an expression. -/
def valueStep (spawn : Spawn) (engine : Engine) (e : Expr) : Act Value := do
  match e with
  | .number x => return .number x
  | .text t => return .text t
  | .regex r =>
    let m ← get
    return .ofBool (r.matchesIn (m.textOf m.record))
  | .name _ | .field _ | .element _ _ => Act.readPlace (← engine.place e)
  | .assign target operator value =>
    let place ← engine.place target
    let v ← engine.value value
    let v ← match operator with
      | none => pure v
      | some operator => do
        let old ← Act.readPlace place
        pure (Value.number (operator.apply old.toNumber v.toNumber))
    Act.writePlace place v
    return v
  | .step target up answersOld =>
    let place ← engine.place target
    let old := (← Act.readPlace place).toNumber
    let new := old.add (.ofInt (if up then 1 else -1))
    Act.writePlace place (.number new)
    return .number (if answersOld then old else new)
  | .positive e => return .number (← engine.number e)
  | .negative e => return .number (← engine.number e).neg
  | .negated e => return .ofBool (!(← engine.value e).isTrue)
  | .arithmetic operator left right =>
    let x ← engine.number left
    let y ← engine.number right
    return .number (operator.apply x y)
  | .compare comparison left right =>
    let a ← engine.value left
    let b ← engine.value right
    return .ofBool (Value.compare (← get).conversion a b comparison)
  | .joined left right =>
    let s ← engine.text left
    let t ← engine.text right
    return .text (s ++ t)
  | .both left right =>
    if (← engine.value left).isTrue then return .ofBool (← engine.value right).isTrue
    else return .ofBool false
  | .either left right =>
    if (← engine.value left).isTrue then return .ofBool true
    else return .ofBool (← engine.value right).isTrue
  | .matching isNegated subject pattern =>
    let text ← engine.text subject
    let r ← engine.pattern pattern
    return .ofBool (r.matchesIn text != isNegated)
  | .isIn subscripts array =>
    let subscript ← engine.subscript subscripts
    let id ← Act.array array
    return .ofBool (((← get).table id).lookup subscript).isSome
  | .choice condition consequence alternative =>
    if (← engine.value condition).isTrue then engine.value consequence
    else engine.value alternative
  | .call name arguments => call engine name arguments
  | .builtin name arguments => builtin spawn engine name arguments
  | .readRecord source operand target => readRecord spawn engine source operand target
  | .grouped [e] => engine.value e
  | .grouped items => return .text (← engine.subscript items)

/-- Run a round of a loop; the answer says whether the loop goes on. -/
def roundOf (body : Act Unit) : Act Bool := do
  match ← Act.attempt body with
  | .ok () | .error .roundEnd => return true
  | .error .loopEnd => return false
  | .error leap => throw leap

/-- Run a body, and then something, as long as a condition holds. -/
def repeatWhile (condition : Act Bool) (body after : Act Unit) : Nat → Act Unit
  | 0 => return ()
  | fuel + 1 => do
    Act.tick
    if ← condition then
      if ← roundOf body then
        after
        repeatWhile condition body after fuel
      else return ()
    else return ()

/-- Run a body for each of some subscripts. -/
def repeatFor (name : Chars) (body : Act Unit) : List Chars → Act Unit
  | [] => return ()
  | subscript :: rest => do
    Act.writePlace (.name name) (.text subscript)
    if ← roundOf body then repeatFor name body rest else return ()

/-- Print values. -/
def printValues (engine : Engine) (isFormatted : Bool) (items : List Expr) (kind : OutputKind)
    (target : Option Expr) : Act Unit := do
  let values ← items.mapM engine.value
  let sink? ← match target with
    | some e => do pure (some (← engine.text e))
    | none => pure none
  let m ← get
  let (text, reason?) : Chars × Option Chars :=
    if isFormatted then
      match values with
      | [] => ([], some "no arguments in call to printf".toList)
      | format :: values =>
        let format := m.textOf format
        formatted m "printf" format (format.length + 1) format values []
    else
      let format := match m.global "OFMT" with
        | .text t | .input t => t
        | _ => "%.6g".toList
      let texts := if values = [] then [m.textOf m.record] else values.map (Value.toText format)
      ((m.globalText "OFS").intercalate texts ++ m.globalText "ORS", none)
  match sink? with
  | none => Act.put text
  | some sink => Act.putTo kind sink text
  match reason? with
  | none => return ()
  | some reason => Act.fault reason

/-- Carry out a statement. -/
def performStep (engine : Engine) (s : Statement) : Act Unit := do
  Act.tick
  match s with
  | .nothing => return ()
  | .evaluate e =>
    let _ ← engine.value e
    return ()
  | .print isFormatted items kind target => printValues engine isFormatted items kind target
  | .sequence statements => statements.forM engine.perform
  | .branch condition consequence alternative =>
    if (← engine.value condition).isTrue then engine.perform consequence
    else engine.perform alternative
  | .loop condition body =>
    let steps := (← Act.ofSteps get).world.steps
    repeatWhile (do return (← engine.value condition).isTrue) (engine.perform body) (pure ())
      (steps + 1)
  | .loopOnce body condition =>
    if ← roundOf (engine.perform body) then
      let steps := (← Act.ofSteps get).world.steps
      repeatWhile (do return (← engine.value condition).isTrue) (engine.perform body) (pure ())
        (steps + 1)
    else return ()
  | .count first condition after body =>
    engine.perform first
    let steps := (← Act.ofSteps get).world.steps
    let holds : Act Bool := match condition with
      | none => return true
      | some e => do return (← engine.value e).isTrue
    repeatWhile holds (engine.perform body) (engine.perform after) (steps + 1)
  | .forEach name array body =>
    let id ← Act.array array
    repeatFor name (engine.perform body) ((← get).table id).visited
  | .leaveLoop => throw .loopEnd
  | .nextRound => throw .roundEnd
  | .nextRecord => throw .record
  | .nextFile => throw .file
  | .exit none => throw .exit
  | .exit (some e) =>
    let x ← engine.number e
    modify fun m => { m with status := ((x.whole?.getD 0) % 256).toNat }
    throw .exit
  | .answer none => throw (.answer .unset)
  | .answer (some e) => throw (.answer (← engine.value e))
  | .delete array [] =>
    let id ← Act.array array
    modify fun m => m.setTable id []
  | .delete array subscripts =>
    let subscript ← engine.subscript subscripts
    let id ← Act.array array
    modify fun m => m.setTable id ((m.table id).remove subscript)

/-- The engine of a depth; what goes deeper stops the script. -/
def engine (spawn : Spawn) : Nat → Engine
  | 0 =>
    ⟨fun _ => throw (.failure "out of space".toList),
      fun _ => throw (.failure "out of space".toList)⟩
  | depth + 1 =>
    let inner := engine spawn depth
    ⟨valueStep spawn inner, performStep inner⟩

/-- How deep expressions and statements stand inside one another. -/
def depthLimit : Nat := 2000

/-- Carry out the action of a rule. -/
def performRule (run : Engine) (rule : Rule) : Act Unit :=
  match rule.action with
  | some action => run.perform action
  | none => run.perform (.print false [] .standard none)

/-- A rule chooses the record. -/
def chooses (run : Engine) (index : Nat) (rule : Rule) : Act Bool := do
  match rule.pattern with
  | .atStart | .atEnd => return false
  | .always => return true
  | .holds e => return (← run.value e).isTrue
  | .span first last =>
    let isOpen : Bool := (← get).openSpans.contains index
    let starts ← if isOpen then pure true else do pure (← run.value first).isTrue
    if starts then
      let ends : Bool := (← run.value last).isTrue
      modify fun m =>
        let others := m.openSpans.filter (· ≠ index)
        { m with openSpans := if ends then others else index :: others }
      return true
    else return false

/-- Carry out the rules for the record. -/
def performRules (run : Engine) : List (Rule × Nat) → Act Unit
  | [] => return ()
  | (rule, index) :: rest => do
    if ← chooses run index rule then performRule run rule
    performRules run rest

/-- Carry out the rules for each record. -/
def performRecords (run : Engine) (rules : List (Rule × Nat)) : Nat → Act Unit
  | 0 => return ()
  | fuel + 1 => do
    Act.tick
    match ← Act.nextRecord with
    | none => return ()
    | some record =>
      Act.setRecord (.input record)
      match ← Act.attempt (performRules run rules) with
      | .ok () | .error .record => performRecords run rules fuel
      | .error .file =>
        modify fun m => { m with waiting := none }
        performRecords run rules fuel
      | .error leap => throw leap

/-- Carry out a script up to its end. -/
def performScript (spawn : Spawn) : Act Unit := do
  let run := engine spawn depthLimit
  let rules := (← get).script.rules
  let isAtStart (rule : Rule) : Bool := match rule.pattern with
    | .atStart => true
    | _ => false
  let isAtEnd (rule : Rule) : Bool := match rule.pattern with
    | .atEnd => true
    | _ => false
  let others := rules.zipIdx.filter fun (rule, _) => !isAtStart rule && !isAtEnd rule
  let last := rules.filter isAtEnd
  let beforeEnd : Act Unit := do
    (rules.filter isAtStart).forM (performRule run)
    if others ≠ [] || last ≠ [] then
      let steps := (← Act.ofSteps get).world.steps
      performRecords run others (steps + 1)
  match ← Act.attempt beforeEnd with
  | .ok () | .error .exit | .error .record => last.forM (performRule run)
  | .error leap => throw leap

/-- A machine at the start of a script. -/
def Machine.start (script : Script) (separator : Option Chars) (arguments : List Chars)
    (environment : List (Chars × Chars)) : Machine :=
  let text (t : String) : Value := .text t.toList
  let separator : Value := match separator with
    | some t => .input (Scan.unescaped (t.length + 1) t)
    | none => text " "
  let scalars : List (String × Value) :=
    [("FS", separator), ("OFS", text " "), ("ORS", text "\n"), ("RS", text "\n"),
     ("SUBSEP", text "\x1c"), ("CONVFMT", text "%.6g"), ("OFMT", text "%.6g"), ("NR", .ofNat 0),
     ("FNR", .ofNat 0), ("NF", .ofNat 0), ("RSTART", .unset), ("RLENGTH", .unset),
     ("FILENAME", .unset), ("ARGC", .ofNat arguments.length)]
  { script
    globals := scalars.map (fun (name, v) => (name.toList, Binding.scalar v)) ++
      [("ARGV".toList, .array 0), ("ENVIRON".toList, .array 1)]
    locals := []
    arrays :=
      [(0, (arguments.zipIdx.map fun (a, i) => (Decimal.digits i, Value.input a)).reverse),
       (1, environment.map fun (name, value) => (name, Value.input value))]
    nextArray := 2
    record := .input []
    fields := []
    printed := []
    sinks := []
    sources := []
    statuses := []
    waiting := none
    nextArgument := 1
    hasRead := false
    openSpans := []
    seed := .number (.ofInt clockSeconds)
    status := 0 }

end Rules

end Shell

end TcpJournal
