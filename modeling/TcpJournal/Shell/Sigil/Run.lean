import TcpJournal.Shell.Rules.Machine
import TcpJournal.Shell.Sigil.Functions

/-!
# Carrying out scripts

Expressions are evaluated to one value or to a list of them, over an engine for the
parts inside them; the engine of a depth is one step over the engine of the depth
below.
-/

namespace TcpJournal

namespace Shell

namespace Sigil

namespace Engine

/-- Match a text and keep the groups; what is answered is a truth, the groups, or all
matches. -/
def applyMatch (text : Chars) (r : Regex) (flags : Chars) (isNegated wantsList : Bool) :
    Act (List Scalar) := do
  let keep (m : RegexMatch) : Act Unit :=
    modify fun machine => { machine with lastText := text, lastMatch := some m }
  let groupsOf (m : RegexMatch) : List Scalar :=
    (List.range r.groupCount).map fun i =>
      if (m.groups.lookup (i + 1)).isSome then .text (m.groupText text (i + 1)) else .undefined
  if flags.contains 'g' && wantsList && !isNegated then
    let found := allMatches r text.toArray (text.length + 2) 0
    if let some m := found.getLast? then keep m
    return found.flatMap fun m =>
      if r.groupCount = 0 then [.text (m.groupText text 0)] else groupsOf m
  else
    let key := "pos\n".toList ++ text
    let reached := ((← get).stored key).toInt.toNat
    let place := if flags.contains 'g' then reached else 0
    match r.search text.toArray place with
    | none =>
      if flags.contains 'g' then modify fun m => m.hold ('$' :: key) (.one .undefined)
      return if wantsList && !isNegated then [] else [.ofBool isNegated]
    | some m =>
      keep m
      if flags.contains 'g' then
        let next := if m.stop = m.start then m.stop + 1 else m.stop
        modify fun machine => machine.hold ('$' :: key) (.one (.ofNat next))
      if isNegated then return [.ofBool false]
      else if wantsList && r.groupCount > 0 then return groupsOf m
      else return [.whole 1]

/-- Replace matches in a place; the answer is their number, or the new text. -/
def applySubstitution (engine : Engine) (target pattern replacement : Expr) (flags : Chars) :
    Act Scalar := do
  let keeps : Bool := flags.contains 'r'
  let place? ← if keeps then pure none else some <$> engine.place target
  let text ← match place? with
    | some place => do pure (← engine.readPlace place).toText
    | none => do pure (← engine.one target).toText
  let r ← engine.regex pattern flags
  let found := allMatches r text.toArray (text.length + 2) 0
  let found := if flags.contains 'g' then found else found.take 1
  let (shown, stop) ← found.foldlM
    (fun (shown, start) m => do
      modify fun machine => { machine with lastText := text, lastMatch := some m }
      let piece := (← engine.one replacement).toText
      return (shown ++ (text.take m.start).drop start ++ piece, m.stop)) (([] : Chars), 0)
  let after := shown ++ text.drop stop
  match place? with
  | none => return .text after
  | some place =>
    if found ≠ [] then engine.writePlace place (.text after)
    return if found = [] then .text [] else .ofNat found.length

/-- Change characters in a place; the answer is the number of those that are named, or
the new text. -/
def applyTransliteration (engine : Engine) (target : Expr) (source target' flags : Chars) :
    Act Scalar := do
  if flags.contains 'r' then
    return .text (transliterated source target' flags (← engine.one target).toText).1
  else
    let place ← engine.place target
    let text := (← engine.readPlace place).toText
    let (after, count) := transliterated source target' flags text
    if after ≠ text then engine.writePlace place (.text after)
    return .ofNat count

/-- Give an expression a value by an operator in front of the equals sign. -/
def assignOne (engine : Engine) (operator : Chars) (target value : Expr) : Act Scalar := do
  let place ← engine.place target
  if operator = [] then
    let v ← engine.one value
    engine.writePlace place v
    return v
  else
    let before ← engine.readPlace place
    let keeps : Bool := match String.ofList operator with
      | "||" => before.isTrue
      | "&&" => !before.isTrue
      | "//" => before.isDefined
      | _ => false
    if keeps then return before
    else
      let v ← engine.one value
      let result ←
        if ["||", "&&", "//"].any fun o => o.toList = operator then pure v
        else
          match Scalar.apply (String.ofList operator) before v with
          | .ok v => pure v
          | .error reason => Act.die reason
      engine.writePlace place result
      return result

/-- Give the parts of a list values from left to right. -/
def assignList (engine : Engine) : List Expr → List Scalar → Act Unit
  | [], _ => return ()
  | target :: rest, values => do
    if let .mine inner := target then declareAll inner
    match withoutMine target with
    | .array name =>
      modify fun m => m.hold ('@' :: name) (.many values)
      assignList engine rest []
    | .table name =>
      modify fun m => m.hold ('%' :: name) (.keyed (entriesOf values))
      assignList engine rest []
    | .call .. | .constant _ => assignList engine rest (values.drop 1)
    | target =>
      let place ← engine.place target
      engine.writePlace place (values.headD .undefined)
      assignList engine rest (values.drop 1)

/-- The value of an expression where a list is asked for, or where one value is. -/
def evaluate (spawn : Spawn) (engine : Engine) (wantsList : Bool) (e : Expr) :
    Act (List Scalar) := do
  let one (v : Scalar) : Act (List Scalar) := return [v]
  let counted (vs : List Scalar) : Act (List Scalar) :=
    return if wantsList then vs else [.ofNat vs.length]
  match e with
  | .constant v => one v
  | .joined pieces => do
    let texts ← pieces.mapM fun piece => do return (← engine.one piece).toText
    one (.text texts.flatten)
  | .scalar name => one (← Act.scalar name)
  | .element .. | .entry .. => one (← engine.readPlace (← engine.place e))
  | .array name => counted ((← get).array name)
  | .lastIndex name => one (.whole ((((← get).array name).length : Int) - 1))
  | .table name => do
    let entries := (← get).table name
    counted (entries.flatMap fun (key, v) => [.text key, v])
  | .slice name indices => do
    let items := (← get).array name
    return (← engine.many indices).map fun i => elementAt items i.toInt
  | .entrySlice name keys => do
    let entries := (← get).table name
    return (← engine.many keys).map fun key => (entries.lookup key.toText).getD .undefined
  | .listSlice items indices => do
    let items ← engine.many items
    let vs := (← engine.many indices).map fun i => elementAt items i.toInt
    return if wantsList then vs else vs.getLast?.toList
  | .list items =>
    if wantsList then return (← items.mapM engine.many).flatten
    else do
      let vs ← items.mapM engine.one
      one (vs.getLast?.getD .undefined)
  | .mine target => do
    declareAll target
    if wantsList then engine.many target else one (← engine.one target)
  | .assign operator target value =>
    if operator = [] && isListTarget target then do
      let values ← engine.many value
      assignList engine (partsOf target) values
      if wantsList then engine.many (withoutMine target) else one (.ofNat values.length)
    else if operator = ['x'] && isListTarget target || operator = ['.'] && isListTarget target then
      Act.die "Can't modify array".toList
    else one (← assignOne engine operator target value)
  | .unary operator operand =>
    match operator with
    | ['!'] => do one (.ofBool (!(← engine.one operand).isTrue))
    | ['-'] => do
      let v ← engine.one operand
      match v with
      | .text t =>
        if t.head?.any startsName then one (.text ('-' :: t)) else one (negated v)
      | v => one (negated v)
    | ['~'] => do one (.ofNat (2 ^ 64 - 1 - (← engine.one operand).toWord))
    | ['-', letter] => do one (← fileTest letter (← engine.one operand).toText)
    | _ => Act.die "syntax error".toList
  | .stepped isBefore isUp target => do
    let place ← engine.place target
    let before ← engine.readPlace place
    let after := if isUp then before.next else before.previous
    engine.writePlace place after
    let before := if before.isDefined then before else .whole 0
    one (if isBefore then after else before)
  | .binary operator left right => do
    if operator = ['x'] && wantsList && isGrouped left then
      let items ← engine.many left
      let n := (← engine.one right).toInt.toNat
      return (List.replicate n items).flatten
    else
      let a ← engine.one left
      let b ← engine.one right
      match Scalar.apply (String.ofList operator) a b with
      | .ok v => one v
      | .error reason => Act.die reason
  | .both left right => do
    let v ← engine.one left
    if !v.isTrue then one v
    else if wantsList then engine.many right else one (← engine.one right)
  | .either left right => do
    let v ← engine.one left
    if v.isTrue then one v
    else if wantsList then engine.many right else one (← engine.one right)
  | .defaulted left right => do
    let v ← engine.one left
    if v.isDefined then one v else one (← engine.one right)
  | .conditional condition consequence alternative => do
    let chosen := if (← engine.one condition).isTrue then consequence else alternative
    if wantsList then engine.many chosen else one (← engine.one chosen)
  | .range first last => do
    let a ← engine.one first
    let b ← engine.one last
    return rangeOf a b
  | .matching target isNegated pattern flags => do
    let text := (← engine.one (target.getD (.scalar ['_']))).toText
    let r ← engine.regex pattern flags
    applyMatch text r (patternFlags pattern flags) isNegated wantsList
  | .substitution target pattern replacement flags => do
    one (← applySubstitution engine (target.getD (.scalar ['_'])) pattern replacement flags)
  | .transliteration target source target' flags => do
    one (← applyTransliteration engine (target.getD (.scalar ['_'])) source target' flags)
  | .lineOf handle =>
    let handle ← if handle.head? = some '$' then do
        let v ← Act.scalar (handle.drop 1)
        pure v.toText
      else pure handle
    if wantsList then do
      let rec all : Nat → Act (List Scalar)
        | 0 => return []
        | fuel + 1 => do
          match ← Act.readLine 1000 handle with
          | some line => return .text line :: (← all fuel)
          | none => return []
      all 100000
    else do
      one (((← Act.readLine 1000 handle).map Scalar.text).getD .undefined)
  | .outputOf command => do
    let command := (← engine.one command).toText
    let (ending, text) ← runProgram spawn [command] true
    modify fun m => m.hold "$?".toList (.one (.whole (waitStatus ending)))
    if wantsList then return (linesOf (text.length + 1) text).map .text else one (.text text)
  | .code body => do
    let m ← get
    set { m with codes := m.codes.push body }
    one (.code m.codes.size)
  | .block body => do
    let vs ← Act.inScope (engine.run true body)
    if wantsList then return vs else return vs.getLast?.toList
  | .guarded body => guard engine wantsList (Act.inScope (engine.run true body))
  | .blockCall name block arguments => do
    let items ← (do return (← arguments.mapM engine.many).flatten)
    match String.ofList name with
    | "sort" => do
      let sorted ← sortBy engine block items
      return if wantsList then sorted else [.ofNat sorted.length]
    | "grep" => do
      let kept ← items.filterM fun v => do
        modify fun m => m.hold "$_".toList (.one v)
        let vs ← Act.inScope (engine.run true block)
        return (vs.getLast?.getD .undefined).isTrue
      counted kept
    | _ => do
      let made ← items.mapM fun v => do
        modify fun m => m.hold "$_".toList (.one v)
        Act.inScope (engine.run true block)
      counted made.flatten
  | .call name arguments =>
    if name = "eval".toList then do
      let text := (← engine.one (arguments.headD (.scalar ['_']))).toText
      guard engine wantsList (do
        match parse true text with
        | .error e =>
          Act.die (e.reason ++ " at (eval 1) line ".toList ++ Decimal.digits e.line ++ ",\n".toList)
        | .ok body => engine.run true body)
    else callFunction spawn engine wantsList name arguments

/-- Carry out a statement; the answer is the value of the last one where it is asked
for. -/
def perform (engine : Engine) (wantsValue : Bool) (s : Statement) : Act (List Scalar) := do
  let isTrue (c : Expr) : Act Bool := do return (← engine.one c).isTrue
  let round (body : Act Unit) : Act Bool := do
    match ← Act.attempt body with
    | .ok () | .error .nextRound => return true
    | .error .loopEnd => return false
    | .error leap => throw leap
  match s with
  | .expression line e =>
    modify fun m => { m with line }
    if wantsValue then engine.many e
    else
      let _ ← engine.one e
      return []
  | .branch condition consequence alternative =>
    let chosen := if ← isTrue condition then consequence else alternative
    Act.inScope (engine.run wantsValue chosen)
  | .loop isUntil condition body after =>
    let steps := (← Act.ofSteps get).world.steps
    let condition := readsLines condition
    let rec go : Nat → Act Unit
      | 0 => return ()
      | fuel + 1 => do
        Act.tick
        if (← isTrue condition) != isUntil then
          let goesOn ← round do
            let _ ← Act.inScope (engine.run false body)
          if goesOn then
            let _ ← Act.inScope (engine.run false after)
            go fuel
    go (steps + 1)
    return []
  | .counted start goal next body =>
    let steps := (← Act.ofSteps get).world.steps
    let rec count : Nat → Act Unit
      | 0 => return ()
      | fuel + 1 => do
        Act.tick
        if ← isTrue goal then
          let goesOn ← round do
            let _ ← Act.inScope (engine.run false body)
          if goesOn then
            let _ ← engine.one next
            count fuel
    Act.inScope do
      let _ ← engine.one start
      count (steps + 1)
    return []
  | .forEach name isMine items body =>
    let values ← engine.many items
    let back? : Option Expr := match items with
      | .array _ => some items
      | .list [.array name] => some (.array name)
      | _ => none
    let key := '$' :: name
    let before := (← get).holding? key
    let rec each : List Scalar → List Scalar → Act (List Scalar)
      | [], done => return done.reverse
      | v :: rest, done => do
        Act.tick
        modify fun m => if isMine then m.declare key (.one v) else m.hold key (.one v)
        let goesOn ← round do
          let _ ← Act.inScope (engine.run false body)
        let changed := (← get).stored name
        if goesOn then each rest (changed :: done) else return done.reverse ++ changed :: rest
    let changed ← if isMine then Act.inScope (each values []) else each values []
    match back? with
    | some (.array name) => modify fun m => m.hold ('@' :: name) (.many changed)
    | _ => pure ()
    if !isMine then modify fun m => m.hold key (before.getD (.one .undefined))
    return []
  | .block body =>
    match ← Act.attempt (Act.inScope (engine.run wantsValue body)) with
    | .ok vs => return vs
    | .error .loopEnd | .error .nextRound => return []
    | .error leap => throw leap
  | .define .. | .first _ | .last _ => return []

/-- Carry out statements over an engine. -/
def runStatements (engine : Engine) (wantsValue : Bool) : List Statement → Act (List Scalar)
  | [] => return []
  | [last] => perform engine wantsValue last
  | first :: rest => do
    let _ ← perform engine false first
    runStatements engine wantsValue rest

/-- The engine of a depth. -/
def ofDepth (spawn : Spawn) : Nat → Engine
  | 0 =>
    let stop {α : Type} : Act α := Act.die "Deep recursion".toList
    ⟨fun _ => stop, fun _ => stop, fun _ _ => stop⟩
  | depth + 1 =>
    let inner := ofDepth spawn depth
    { one := fun e => do
        return (← evaluate spawn inner false e).getLast?.getD .undefined
      many := evaluate spawn inner true
      run := fun wantsValue body => do
        Act.tick
        runStatements inner wantsValue body }

end Engine

end Sigil

end Shell

end TcpJournal
