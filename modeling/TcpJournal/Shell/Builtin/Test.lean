import TcpJournal.Shell.Conversion
import TcpJournal.Shell.Process

/-!
# Conditions

A condition is a list of words: operands, comparisons, questions about files,
negations, conjunctions, disjunctions and parentheses.  Up to four words are
read by their number, so that operands that look like operators do no harm.
-/

namespace TcpJournal

namespace Shell

namespace Condition

/-- What a word of a condition can be. -/
inductive Symbol where
  | operand
  | question
  | comparison
  | negation
  | conjunction
  | disjunction
  | leftParenthesis
  | rightParenthesis
  | theEnd
  deriving DecidableEq, Repr

/-- The symbol that a word is by itself. -/
def symbol (word : Chars) : Symbol :=
  match String.ofList word with
  | "-b" | "-c" | "-d" | "-e" | "-f" | "-g" | "-G" | "-h" | "-k" | "-L" | "-n" | "-O" | "-p"
  | "-r" | "-s" | "-S" | "-t" | "-u" | "-w" | "-x" | "-z" => .question
  | "=" | "!=" | "<" | ">" | "-eq" | "-ne" | "-lt" | "-le" | "-gt" | "-ge" | "-nt" | "-ot"
  | "-ef" => .comparison
  | "!" => .negation
  | "-a" => .conjunction
  | "-o" => .disjunction
  | "(" => .leftParenthesis
  | ")" => .rightParenthesis
  | _ => .operand

/-- The symbol at the front of words: a question needs an operand and a
parenthesis something behind it. -/
def next (words : List Chars) : Symbol :=
  match words with
  | [] => .theEnd
  | word :: rest =>
    match symbol word with
    | .question =>
      match rest with
      | [] => .operand
      | [_] => .question
      | operator :: _ => if symbol operator = .comparison then .operand else .question
    | .leftParenthesis => if rest = [] then .operand else .leftParenthesis
    | s => s

/-- Why a condition has no answer. -/
abbrev Fault := Chars

/-- The integer that an operand is. -/
def integer (text : Chars) : Except Fault Int :=
  let (negative, digits) := leadingSign (text.dropWhile isBlankChar)
  let number := digits.takeWhile Text.isDigit
  let n : Int := Decimal.value number
  let value := if negative then -n else n
  if number = [] || !(digits.drop number.length).all isBlankChar then
    .error ("Illegal number: ".toList ++ text)
  else if value < -(2 ^ 63) || 2 ^ 63 ≤ value then .error ("Illegal number: ".toList ++ text)
  else .ok value

/-- What stands at a path; a name for a descriptor leads to its stream. -/
inductive FileKind where
  | directory
  | regular (isEmpty isProgram : Bool)
  | pipe
  | special
  deriving DecidableEq, Repr

/-- The kind of the file at a path. -/
def fileKind? (p : Process) (path : Chars) : Option FileKind :=
  match p.world.files.find p.directory path with
  | .error _ => none
  | .ok place =>
    match p.world.files.node? place with
    | none => none
    | some .directory => some .directory
    | some (.regular content isProgram) =>
      some (.regular (content = [] && !isProgram) isProgram)
    | some (.device (.descriptor number)) =>
      (p.stream? number).map fun (_, s) =>
        match s with
        | .pipe _ _ => .pipe
        | .file place _ _ _ _ =>
          match p.world.files.node? place with
          | some (.regular content isProgram) => .regular (content = []) isProgram
          | _ => .directory
        | _ => .special
    | some (.device _) => some .special

/-- The paths of a plain system that are links. -/
def isLink (path : Chars) : Bool :=
  ["/bin", "/lib", "/sbin", "/dev/stdin", "/dev/stdout", "/dev/stderr", "/dev/fd", "/bin/sh",
   "/usr/bin/awk", "/bin/awk", "/usr/bin/sh"].any fun link => link.toList = path

/-- The answer to a question about one operand. -/
def answer (p : Process) (question operand : Chars) : Except Fault Bool :=
  let kind := fileKind? p operand
  match String.ofList question with
  | "-n" => .ok (operand ≠ [])
  | "-z" => .ok (operand = [])
  | "-t" => (integer operand).map fun _ => false
  | "-b" | "-S" | "-g" | "-u" => .ok false
  | "-c" => .ok (kind = some .special)
  | "-d" => .ok (kind = some .directory)
  | "-f" => .ok (match kind with
    | some (.regular _ _) => true
    | _ => false)
  | "-h" | "-L" => .ok (isLink operand)
  | "-k" => .ok (operand = "/tmp".toList || operand = "/var/tmp".toList)
  | "-p" => .ok (kind = some .pipe)
  | "-s" => .ok (match kind with
    | some .directory => true
    | some (.regular isEmpty _) => !isEmpty
    | _ => false)
  | "-x" => .ok (match kind with
    | some .directory => true
    | some (.regular _ isProgram) => isProgram
    | _ => false)
  | _ => .ok kind.isSome

/-- The answer of a comparison. -/
def compare (p : Process) (left operator right : Chars) : Except Fault Bool := do
  let numbers (holds : Int → Int → Bool) : Except Fault Bool := do
    return holds (← integer left) (← integer right)
  match String.ofList operator with
  | "=" => return left = right
  | "!=" => return left ≠ right
  | "<" => return decide (left < right)
  | ">" => return decide (right < left)
  | "-eq" => numbers fun a b => a = b
  | "-ne" => numbers fun a b => a ≠ b
  | "-lt" => numbers fun a b => a < b
  | "-le" => numbers fun a b => a ≤ b
  | "-gt" => numbers fun a b => a > b
  | "-ge" => numbers fun a b => a ≥ b
  | "-ef" =>
    return (fileKind? p left).isSome &&
      (p.world.files.find p.directory left).toOption =
        (p.world.files.find p.directory right).toOption
  | _ => return false

mutual

/-- A disjunction whose first symbol is known.  Every reader answers the words
from the last one that it has used. -/
def disjunction (p : Process) : Nat → Symbol → List Chars → Except Fault (Bool × List Chars)
  | 0, _, _ => .error "too deep".toList
  | fuel + 1, s, words => do
    let (left, words) ← conjunction p fuel s words
    if next (words.drop 1) = .disjunction then
      let words := words.drop 2
      let (right, words) ← disjunction p fuel (next words) words
      return (left || right, words)
    else return (left, words)

/-- A conjunction. -/
def conjunction (p : Process) : Nat → Symbol → List Chars → Except Fault (Bool × List Chars)
  | 0, _, _ => .error "too deep".toList
  | fuel + 1, s, words => do
    let (left, words) ← negation p fuel s words
    if next (words.drop 1) = .conjunction then
      let words := words.drop 2
      let (right, words) ← conjunction p fuel (next words) words
      return (left && right, words)
    else return (left, words)

/-- A negation or what binds tighter. -/
def negation (p : Process) : Nat → Symbol → List Chars → Except Fault (Bool × List Chars)
  | 0, _, _ => .error "too deep".toList
  | fuel + 1, s, words =>
    if s = .negation then do
      let following := next (words.drop 1)
      let words := if following = .theEnd then words else words.drop 1
      let (b, words) ← negation p fuel following words
      return (!b, words)
    else primary p fuel s words

/-- A parenthesis, a question, a comparison, or an operand. -/
def primary (p : Process) : Nat → Symbol → List Chars → Except Fault (Bool × List Chars)
  | 0, _, _ => .error "too deep".toList
  | fuel + 1, s, words =>
    let rest := words.drop 1
    match s with
    | .theEnd => .ok (false, words)
    | .leftParenthesis =>
      if next rest = .rightParenthesis then .ok (false, rest)
      else do
        let (b, words) ← disjunction p fuel (next rest) rest
        let rest := words.drop 1
        if next rest = .rightParenthesis then return (b, rest)
        else .error "closing paren expected".toList
    | .question =>
      match words, rest with
      | question :: _, operand :: _ => (answer p question operand).map fun b => (b, rest)
      | question :: _, [] => .error (question ++ ": argument expected".toList)
      | [], _ => .ok (false, words)
    | _ =>
      if next rest = .comparison then
        match words with
        | left :: operator :: right :: after =>
          (compare p left operator right).map fun b => (b, right :: after)
        | _ => .error (rest.headD [] ++ ": argument expected".toList)
      else .ok (words.headD [] ≠ [], words)

end

/-- The answer of a list of words read by the rules of precedence; `known` is
the symbol of the first word where the number of words settles it. -/
def general (p : Process) (known : Option Symbol) (words : List Chars) : Except Fault Bool := do
  let (b, last) ← disjunction p (4 * words.length + 8) (known.getD (next words)) words
  match last with
  | word :: _ :: _ => .error (word ++ ": unexpected operator".toList)
  | _ => return b

/-- The answer of a condition. -/
def holds (p : Process) : Nat → List Chars → Except Fault Bool
  | 0, _ => .error "too deep".toList
  | fuel + 1, words =>
    let negated (rest : List Chars) : Except Fault Bool :=
      (holds p fuel rest).map fun b => !b
    let enclosed : Option (List Chars) :=
      if words.head? = some ['('] && words.getLast? = some [')'] then some (words.drop 1).dropLast
      else none
    match words with
    | [] => .ok false
    | [a, b, c] =>
      if symbol b = .comparison then general p (some .operand) words
      else
        match enclosed with
        | some inside => general p none inside
        | none => if a = ['!'] then negated [b, c] else general p none words
    | [a, b, c, d] =>
      match enclosed with
      | some inside => general p none inside
      | none => if a = ['!'] then negated [b, c, d] else general p none words
    | words => general p none words

end Condition

end Shell

end TcpJournal
