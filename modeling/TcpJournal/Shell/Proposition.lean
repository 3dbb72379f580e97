import TcpJournal.Shell.Builtin.Test
import TcpJournal.Shell.Builtin.Variables
import TcpJournal.Shell.Child
import TcpJournal.Shell.Regex

/-!
# Propositions and calculations

A proposition asks about words that are neither split nor matched against paths.
It compares texts with patterns, with regular expressions, by their order, or as
numbers.  Its status is zero if it holds, one if it does not, and two if an
expression in it cannot be read.  A calculation has the status zero if its value
is another number than zero.
-/

namespace TcpJournal

namespace Shell

namespace Evaluate

/-- The status of a truth value. -/
def truthStatus (b : Bool) : Nat := if b then 0 else 1

/-- The text of a regular expression in which what stood in quotes stands for
itself. -/
def expressionText (marks : List MarkedChar) : Chars :=
  marks.flatMap fun (c, isQuoted) =>
    if isQuoted && "\\^$.[]|()*+?\x7b\x7d".toList.contains c then ['\\', c] else [c]

/-- The value of an arithmetic expression that is a word. -/
def calculated (run : Runner) (expression : Word) : Action Int := do
  let cells ← wordCells (substitute run) false false expression
  arithmeticValue (cellText [' '] cells)

/-- What a calculation answers, or the status of an error in it. -/
def calculationStatus (run : Runner) (expression : Word) : Action Nat := do
  match ← Action.attempt (calculated run expression) with
  | .ok value => return truthStatus (value ≠ 0)
  | .error .fault => return 1
  | .error jump => throw jump

/-- Match a text with a regular expression and keep its groups. -/
def matchExpression (text : Chars) (marks : List MarkedChar) : Action Nat := do
  let p ← get
  match Regex.parse .extended (expressionText marks) with
  | .error _ => return 2
  | .ok r =>
    let r := { r with ignoresCase := p.hasNamed "nocasematch" }
    let found := r.search text.toArray 0
    let groups : List Chars :=
      match found with
      | some m => (List.range (r.groupCount + 1)).map (m.groupText text)
      | none => []
    set (p.bind "BASH_REMATCH".toList { Variable.fresh with elements := some (.ofTexts groups) })
    return truthStatus found.isSome

/-- Compare two texts as numbers. -/
def compareNumbers (operator left right : Chars) : Action Nat := do
  let values : Action (Int × Int) := do
    return (← arithmeticValue left, ← arithmeticValue right)
  match ← Action.attempt values with
  | .ok (a, b) =>
    return truthStatus <| match String.ofList operator with
      | "-eq" => a = b
      | "-ne" => a ≠ b
      | "-lt" => a < b
      | "-le" => a ≤ b
      | "-gt" => a > b
      | _ => a ≥ b
  | .error .fault => return 1
  | .error jump => throw jump

/-- The operators that compare numbers. -/
def numberComparisons : List Chars :=
  ["-eq", "-ne", "-lt", "-le", "-gt", "-ge"].map String.toList

/-- The answer to a question about one word. -/
def questionStatus (question operand : Chars) : Action Nat := do
  let p ← get
  match String.ofList question with
  | "-v" =>
    let (name, key?) ← namedParameter operand
    return truthStatus (match held p name key? with
      | .one value => value.isSome
      | .many _ texts => texts ≠ [])
  | "-o" =>
    let letter? := (Builtin.namedOptions.find? fun entry => entry.1.toList = operand).map Prod.snd
    let letter? := if operand = "pipefail".toList then some '\x01' else letter?
    return truthStatus (letter?.any p.has)
  | _ =>
    match Condition.answer p question operand with
    | .ok b => return truthStatus b
    | .error reason =>
      Action.warn reason
      return 2

/-- The answer to a comparison of a text with a word. -/
def comparisonStatus (run : Runner) (operator left : Chars) (right : Word) : Action Nat := do
  let cells ← wordCells (substitute run) false false (withTildes (← get) false right)
  let p ← get
  let marks := cellMarks cells
  let text := cellText [' '] cells
  let isEqual : Bool :=
    if p.hasNamed "nocasematch" then
      Glob.matchesAll (patternOf p (marks.map fun (c, q) => (lowerCase c, q)))
        (left.map lowerCase)
    else Glob.matchesAll (patternOf p marks) left
  if operator = ['='] || operator = ['=', '='] then return truthStatus isEqual
  else if operator = ['!', '='] then return truthStatus (!isEqual)
  else if operator = ['=', '~'] then matchExpression left marks
  else if operator = ['<'] then return truthStatus (decide (left < text))
  else if operator = ['>'] then return truthStatus (decide (text < left))
  else if numberComparisons.contains operator then compareNumbers operator left text
  else
    match Condition.compare p left operator text with
    | .ok b => return truthStatus b
    | .error _ => return 2

/-- The status of a proposition; what does not matter for it is not asked. -/
def propositionStatus (run : Runner) : Proposition → Action Nat
  | .word content => do
    return truthStatus ((← Expansion.text (substitute run) content) ≠ [])
  | .question operator operand => do
    questionStatus operator (← Expansion.text (substitute run) operand)
  | .comparison operator left right => do
    comparisonStatus run operator (← Expansion.text (substitute run) left) right
  | .negated body => do return truthStatus ((← propositionStatus run body) ≠ 0)
  | .both left right => do
    let status ← propositionStatus run left
    if status = 0 then propositionStatus run right else return status
  | .either left right => do
    let status ← propositionStatus run left
    if status = 0 then return status else propositionStatus run right

end Evaluate

end Shell

end TcpJournal
