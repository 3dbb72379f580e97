import TcpJournal.Shell.Arithmetic
import TcpJournal.Shell.Assignment
import TcpJournal.Shell.Glob
import TcpJournal.Shell.Process

/-!
# What names stand for

A name stands for the value of a parameter or a variable, or in the extended
language with a subscript for an element of a list.  In arithmetic it stands for
a number: in the extended language for the value of the expression that its
text is.
-/

namespace TcpJournal

namespace Shell

/-- The separators of fields. -/
def separators (p : Process) : Chars :=
  match p.binding? "IFS".toList with
  | some v => v.text?.getD [' ', '\t', '\n']
  | none => [' ', '\t', '\n']

/-- The text between arguments that become one. -/
def argumentSeparator (p : Process) : Chars :=
  (separators p).take 1

/-- The letters of options in the order in which they are listed. -/
def optionLetters : Chars := "pubaCEVvxsnmiIfe".toList

/-- The letters of the options of the extended shell. -/
def extendedOptionLetters : Chars := "abefhkmnptuvxBCEHPTc".toList

/-- The number of children that a process is inside. -/
def nestingDepth (p : Process) : Nat :=
  if p.id = p.shellId then 0 else (p.ancestors.takeWhile (· ≠ p.shellId)).length + 1

/-- A number that looks like any other; it changes with every step. -/
def randomNumber (p : Process) : Nat :=
  (p.world.steps * 1103515245 + 12345) / 65536 % 32768

/-- The value that the extended shell gives a name by itself. -/
def ownValue? (p : Process) (name : Chars) : Option Chars :=
  match String.ofList name with
  | "LINENO" => some (Decimal.digits p.line)
  | "RANDOM" => some (Decimal.digits (randomNumber p))
  | "SECONDS" => some ['0']
  | "BASHPID" => some (Decimal.digits p.id)
  | "BASH_SUBSHELL" => some (Decimal.digits (nestingDepth p))
  | "FUNCNAME" => p.functionNames.head?
  | "PIPESTATUS" => p.memberEndings.head?.map Decimal.digits
  | _ => none

/-- The value of a parameter that is no list of arguments. -/
def parameterValue? (p : Process) (name : Chars) : Option Chars :=
  match name with
  | ['$'] => some (Decimal.digits p.shellId)
  | ['?'] => some (Decimal.digits p.status)
  | ['#'] => some (Decimal.digits p.arguments.length)
  | ['!'] => p.lastBackground.map Decimal.digits
  | ['-'] => some ((match p.dialect with
    | .plain => optionLetters
    | .extended => extendedOptionLetters).filter p.has)
  | ['0'] => some p.name
  | name =>
    if name.all Text.isDigit then
      let n := Decimal.value name
      if n = 0 then some p.name else p.arguments[n - 1]?
    else if p.dialect = .plain then p.value? name
    else (p.value? name).orElse fun _ => ownValue? p name

/-- A parameter is not set where that is an error.  In the extended shell it ends
a command line with a status of its own. -/
def unsetFault {α : Type} (name reason : Chars) : Action α := do
  let p ← get
  if p.dialect = .plain then Action.fault (name ++ ": ".toList ++ reason)
  else
    Action.warn (name ++ ": ".toList ++ reason)
    let isWhole : Bool := p.has 'c' && !p.has 'e' && p.id = p.shellId
    modify fun p => { p with status := if isWhole then 127 else 1 }
    throw .exit

/-- The reason that a parameter without a value is reported for. -/
def unsetReason (p : Process) : Chars :=
  (if p.dialect = .plain then "parameter not set" else "unbound variable").toList

/-- What a parameter holds: a text or none, or the texts of a list. -/
inductive Held where
  | one (value : Option Chars)
  | many (isStar : Bool) (texts : List Chars)
  deriving DecidableEq, Repr

namespace Held

/-- The texts that are held. -/
def texts : Held → List Chars
  | one value => value.toList
  | many _ texts => texts

/-- What is held with every text changed. -/
def map (f : Chars → Chars) : Held → Held
  | one value => one (value.map f)
  | many isStar texts => many isStar (texts.map f)

/-- The text that is held, if anything is. -/
def text? (p : Process) : Held → Option Chars
  | one value => value
  | many _ [] => none
  | many _ texts => some ((argumentSeparator p).intercalate texts)

end Held

/-- The elements that a name stands for: those of its list, a text as the only one
of a list, or what the shell keeps under the name. -/
def elementsOf (p : Process) (name : Chars) : Elements :=
  match p.binding? name with
  | some v => v.toElements
  | none =>
    match String.ofList name with
    | "PIPESTATUS" => .ofTexts (p.memberEndings.map Decimal.digits)
    | "FUNCNAME" => .ofTexts p.functionNames
    | _ => .ofTexts (ownValue? p name).toList

/-- What the parameter of a name holds, as a whole or under a key. -/
def held (p : Process) (name : Chars) (key? : Option Chars) : Held :=
  match key? with
  | none =>
    if name = ['@'] || name = ['*'] then .many (name = ['*']) p.arguments
    else .one (parameterValue? p name)
  | some key =>
    let elements := elementsOf p name
    if key = ['@'] || key = ['*'] then .many (key = ['*']) (elements.entries.map Prod.snd)
    else .one (elements.find? key)

/-- A text that names an element, split at its brackets. -/
def splitReference? (text : Chars) : Option (Chars × Chars) :=
  let name := text.takeWhile isNameChar
  match text.drop name.length with
  | '[' :: inside =>
    if isName name && inside.getLast? = some ']' && inside.length > 1 then
      some (name, inside.dropLast)
    else none
  | _ => none

/-- The key of a numbered element; numbers below zero count from the end. -/
def indexKey (e : Elements) (n : Int) : Action Chars :=
  let n := if n < 0 then n + e.nextIndex else n
  if n < 0 then Action.fault "bad array subscript".toList else return Decimal.ofInt n

/-- Give an element a value. -/
def assignElement (name key value : Chars) : Action Unit := do
  let p ← get
  let v := (p.binding? name).getD .fresh
  if v.isReadOnly then Action.fault (name ++ ": readonly variable".toList)
  else set (p.bind name { v with value := none, elements := some (v.toElements.put key value) })

/-- The number that a text without further meaning is. -/
def numeral (text : Chars) : Int :=
  match text with
  | '-' :: digits => -(Decimal.value digits : Int)
  | digits => Decimal.value digits

/-- Give the variable or the element that a text names a value; the subscript is
a number or a key. -/
def assignNamed (text value : Chars) : Action Unit := do
  match splitReference? text with
  | none => Action.assign text value
  | some (name, subscript) =>
    let e := elementsOf (← get) name
    let key ← if e.isKeyed then pure subscript else indexKey e (numeral subscript)
    assignElement name key value

/-- The text of the variable or the element that a text names. -/
def namedText? (text : Chars) : Action (Option Chars) := do
  let p ← get
  match splitReference? text with
  | none => return parameterValue? p text
  | some (name, subscript) =>
    let e := elementsOf p name
    let key ← if e.isKeyed then pure subscript else indexKey e (numeral subscript)
    return e.find? key

/-- How deep the texts of names are read as expressions. -/
def readingDepth : Nat := 256

/-- The value of an arithmetic expression at a depth. -/
def arithmeticAt : Nat → Chars → Action Int
  | 0, text => Action.fault (text ++ ": expression recursion level exceeded".toList)
  | depth + 1, text => do
    let p ← get
    let fail (reason : String) : Action Int :=
      Action.fault ("arithmetic expression: ".toList ++ reason.toList ++ ": \"".toList ++ text ++
        "\"".toList)
    let numberOf (name : Chars) : Action Int := do
      match ← namedText? name with
      | none =>
        if (← get).has 'u' then unsetFault name (unsetReason p) else return 0
      | some text =>
        match p.dialect with
        | .extended => arithmeticAt depth text
        | .plain =>
          match variableNumber? text with
          | some n => return n
          | none => Action.fault ("Illegal number: ".toList ++ text)
    match Expr.ofText p.dialect text with
    | .error reason => fail reason
    | .ok e => e.value numberOf (fun name n => assignNamed name (Decimal.ofInt n)) fail

/-- The value of an arithmetic expression. -/
def arithmeticValue (text : Chars) : Action Int :=
  arithmeticAt readingDepth text

/-- The key that a subscript stands for: of all elements, of a keyed one, or of the
one whose number is the value of an expression. -/
def keyOf (name subscript : Chars) : Action Chars := do
  let e := elementsOf (← get) name
  if e.isKeyed || subscript = ['@'] || subscript = ['*'] then return subscript
  else indexKey e (← arithmeticValue subscript)

/-- The parameter that a text names, with its key. -/
def namedParameter (text : Chars) : Action (Chars × Option Chars) := do
  match splitReference? text with
  | none => return (text, none)
  | some (name, subscript) => return (name, some (← keyOf name subscript))

end Shell

end TcpJournal
