import TcpJournal.Shell.Arithmetic
import TcpJournal.Shell.Regex
import TcpJournal.Shell.Utility.Options

/-!
# Programs that calculate

Sequences of numbers, and expressions whose words are arguments.
-/

namespace TcpJournal

namespace Shell

namespace Utility

open Shell.Program

/-- A decimal number as a whole number of units of its last place. -/
structure ScaledNumber where
  units : Int
  places : Nat
  deriving DecidableEq, Repr

namespace ScaledNumber

/-- The greatest exponent that is read. -/
def mostExponent : Nat := 4000

/-- The number that a text is: a decimal one, perhaps with an exponent, or a
whole one to the base of sixteen. -/
def ofText? (text : Chars) : Option ScaledNumber :=
  let (negative, digits) := leadingSign (text.dropWhile isBlankChar)
  let signed (n : Nat) : Int := if negative then -(n : Int) else n
  match digits with
  | '0' :: x :: hex =>
    if x = 'x' || x = 'X' then
      let values := hex.map Text.hexValue?
      if hex ≠ [] && values.all Option.isSome then
        some ⟨signed ((values.filterMap id).foldl (fun n d => 16 * n + d) 0), 0⟩
      else none
    else decimal signed digits
  | digits => decimal signed digits
where
  /-- The number that decimal digits stand for. -/
  decimal (signed : Nat → Int) (digits : Chars) : Option ScaledNumber :=
    let whole := digits.takeWhile Text.isDigit
    let rest := digits.drop whole.length
    let (fraction, rest) := match rest with
      | '.' :: after =>
        let fraction := after.takeWhile Text.isDigit
        (fraction, after.drop fraction.length)
      | rest => ([], rest)
    let (exponent, rest) := leadingExponent rest
    let n := Decimal.value (whole ++ fraction)
    let places : Int := fraction.length - exponent
    if (whole = [] && fraction = []) || rest ≠ [] || places.natAbs > mostExponent then none
    else if places < 0 then some ⟨signed (n * 10 ^ (-places).toNat), 0⟩
    else some ⟨signed n, places.toNat⟩

/-- The units of a number at more places. -/
def at_ (x : ScaledNumber) (places : Nat) : Int :=
  x.units * 10 ^ (places - x.places)

end ScaledNumber

/-- The text of units at a number of places. -/
def unitsText (places : Nat) (units : Int) : Chars :=
  let text := if places = 0 then Decimal.digits units.natAbs else Decimal.fixed places units.natAbs
  if units < 0 then '-' :: text else text

/-- Words in which a mark stands in front of the first negative number; what an
option takes from the next word is left out. -/
def withMarkedNumbers : List Chars → List Chars
  | [] => []
  | word :: rest =>
    match word with
    | ['-', '-'] => word :: rest
    | '-' :: c :: more =>
      if Text.isDigit c || c = '.' then ['-', '-'] :: word :: rest
      else
        let letters := c :: more
        let takesNext : Bool :=
          ["-separator", "-format"].any (fun name => name.toList = letters) ||
            (c ≠ '-' && "sf".toList.any fun l => letters.dropWhile (· = 'w') = [l])
        match takesNext, rest with
        | true, value :: rest => word :: value :: withMarkedNumbers rest
        | _, rest => word :: withMarkedNumbers rest
    | word => word :: rest

/-- The format of numbers: texts around a conversion. -/
structure NumberFormat where
  before : Chars
  conversion : Conversion
  after : Chars

namespace NumberFormat

/-- A text up to its first percent sign that is not doubled, and what follows. -/
def literal : Chars → Chars × Option Chars
  | '%' :: '%' :: rest =>
    let (text, after) := literal rest
    ('%' :: text, after)
  | '%' :: rest => ([], some rest)
  | c :: rest =>
    let (text, after) := literal rest
    (c :: text, after)
  | [] => ([], none)

/-- The format that a text is. -/
def ofText (text : Chars) : Except Chars NumberFormat :=
  let quoted : Chars := "format '".toList ++ text ++ "' ".toList
  match literal text with
  | (_, none) => .error (quoted ++ "has no % directive".toList)
  | (before, some rest) =>
    match Conversion.read? rest [] with
    | none => .error (quoted ++ "ends in %".toList)
    | some (conversion, rest, _) =>
      if !"efgaEFGA".toList.contains conversion.letter then
        .error (quoted ++ "has unknown %".toList ++ conversion.letter :: " directive".toList)
      else
        match literal rest with
        | (after, none) => .ok ⟨before, conversion, after⟩
        | _ => .error (quoted ++ "has too many % directives".toList)

end NumberFormat

/-- Numbers from the first to the last. -/
def seq : Program := fun words =>
  withOptions "seq" 1
    ⟨"f:s:w", [("equal-width", 'w'), ("format", 'f'), ("separator", 's')], false⟩ (fun g => do
      let fail (reason : Chars) : Steps Nat := do
        report "seq" reason
        Steps.complain "Try 'seq --help' for more information.\n".toList
        return 1
      let format? : Except Chars (Option NumberFormat) :=
        match g.value? 'f' with
        | none => .ok none
        | some text => (NumberFormat.ofText text).map some
      match g.operands.find? fun word => (ScaledNumber.ofText? word).isNone, format? with
      | some word, _ => fail ("invalid floating point argument: '".toList ++ word ++ ['\''])
      | none, .error reason =>
        report "seq" reason
        return 1
      | none, .ok format? =>
        match g.operands.filterMap ScaledNumber.ofText? with
        | [] => fail "missing operand".toList
        | [last] => output "seq" (numbers g format? ⟨1, 0⟩ ⟨1, 0⟩ last)
        | [first, last] => output "seq" (numbers g format? first ⟨1, 0⟩ last)
        | [first, step, last] =>
          if step.units = 0 then
            fail ("invalid Zero increment value: '".toList ++ (g.operands[1]?).getD [] ++ ['\''])
          else output "seq" (numbers g format? first step last)
        | _ => fail ("extra operand '".toList ++ (g.operands[3]?).getD [] ++ ['\'']))
    (withMarkedNumbers words)
where
  /-- The text of the numbers. -/
  numbers (g : Given) (format? : Option NumberFormat) (first step last : ScaledNumber) : Chars :=
    let places := max first.places step.places
    let grid := max places last.places
    let s := first.at_ grid
    let d := step.at_ grid
    let e := last.at_ grid
    let count :=
      if d > 0 then (if s ≤ e then ((e - s) / d).toNat + 1 else 0)
      else if s ≥ e then ((s - e) / (-d)).toNat + 1 else 0
    let values := (List.range (min count 500000)).map fun (i : Nat) => s + d * (i : Int)
    let texts := values.map fun n =>
      match format? with
      | none => unitsText places (n / 10 ^ (grid - places))
      | some format =>
        let x := Binary64.nearest (decide (n < 0)) n.natAbs (10 ^ grid)
        format.before ++ format.conversion.ofNumber x ++ format.after
    let width := (texts.map List.length).foldl max 0
    let texts := if g.has 'w' && format?.isNone then texts.map fun text =>
        match text with
        | '-' :: digits => '-' :: Decimal.padLeft '0' (width - 1) digits
        | digits => Decimal.padLeft '0' width digits
      else texts
    let separator := (g.value? 's').getD ['\n']
    if texts = [] then [] else separator.intercalate texts ++ ['\n']

namespace ExprWords

/-- A value is neither empty nor zero. -/
def isTrue (text : Chars) : Bool :=
  let digits := match text with
    | '-' :: rest => rest
    | rest => rest
  !(text = [] || (digits ≠ [] && digits.all (· = '0')))

/-- The integer that a value is. -/
def integer? (text : Chars) : Option Int :=
  match text with
  | '-' :: digits =>
    if digits ≠ [] && digits.all Text.isDigit then some (-(Decimal.value digits : Int)) else none
  | digits =>
    if digits ≠ [] && digits.all Text.isDigit then some (Decimal.value digits) else none

/-- The part of a text that a pattern at its start matches, or its length. -/
def matchedPart (text pattern : Chars) : Except Chars Chars :=
  match Regex.parse .basic pattern with
  | .error e => .error e
  | .ok regex =>
    match regex.matchAt text 0 with
    | none => .ok (if regex.groupCount > 0 then [] else ['0'])
    | some found =>
      if regex.groupCount > 0 then .ok (found.groupText text 1)
      else .ok (Decimal.digits found.stop)

/-- The value of an operator on two values. -/
def operate (operator : String) (left right : Chars) : Except Chars Chars :=
  let truth (b : Bool) : Except Chars Chars := .ok (if b then ['1'] else ['0'])
  let order : Ordering :=
    match integer? left, integer? right with
    | some a, some b => compare a b
    | _, _ => if left < right then .lt else if left = right then .eq else .gt
  let numbers (f : Int → Int → Except Chars Int) : Except Chars Chars :=
    match integer? left, integer? right with
    | some a, some b => (f a b).map Decimal.ofInt
    | _, _ => .error "non-integer argument".toList
  match operator with
  | "|" => .ok (if isTrue left then left else if isTrue right then right else ['0'])
  | "&" => .ok (if isTrue left && isTrue right then left else ['0'])
  | "<" => truth (order = .lt)
  | "<=" => truth (order ≠ .gt)
  | "=" | "==" => truth (order = .eq)
  | "!=" => truth (order ≠ .eq)
  | ">=" => truth (order ≠ .lt)
  | ">" => truth (order = .gt)
  | "+" => numbers fun a b => .ok (a + b)
  | "-" => numbers fun a b => .ok (a - b)
  | "*" => numbers fun a b => .ok (a * b)
  | "/" => numbers fun a b => if b = 0 then .error "division by zero".toList else .ok (a.tdiv b)
  | "%" => numbers fun a b => if b = 0 then .error "division by zero".toList else .ok (a.tmod b)
  | _ => matchedPart left right

/-- The operators of each rank, looser ones first. -/
def ranks : List (List String) :=
  [["|"], ["&"], ["<", "<=", "=", "==", "!=", ">=", ">"], ["+", "-"], ["*", "/", "%"], [":"]]

mutual

/-- The value of words from a rank on, and the words behind it. -/
def value : Nat → List (List String) → List Chars → Except Chars (Chars × List Chars)
  | 0, _, _ => .error "syntax error".toList
  | fuel + 1, [], words => operand fuel words
  | fuel + 1, operators :: tighter, words => do
    let (left, rest) ← value fuel tighter words
    valueFrom fuel operators tighter left rest

/-- The value of a left operand with the operators of a rank behind it. -/
def valueFrom : Nat → List String → List (List String) → Chars → List Chars →
    Except Chars (Chars × List Chars)
  | 0, _, _, _, _ => .error "syntax error".toList
  | fuel + 1, operators, tighter, left, words =>
    match words with
    | word :: rest =>
      if operators.contains (String.ofList word) then do
        let (right, rest) ← value fuel tighter rest
        valueFrom fuel operators tighter (← operate (String.ofList word) left right) rest
      else .ok (left, words)
    | [] => .ok (left, [])

/-- The value of an operand. -/
def operand : Nat → List Chars → Except Chars (Chars × List Chars)
  | 0, _ => .error "syntax error".toList
  | fuel + 1, words =>
    match words with
    | [] => .error "syntax error: missing argument".toList
    | ['('] :: rest => do
      let (inner, rest) ← value fuel ranks rest
      match rest with
      | [')'] :: rest => return (inner, rest)
      | _ => .error "syntax error: expecting ')'".toList
    | ['+'] :: word :: rest => .ok (word, rest)
    | [')'] :: _ => .error "syntax error: unexpected ')'".toList
    | word :: rest =>
      match String.ofList word, rest with
      | "length", rest => do
        let (text, rest) ← operand fuel rest
        return (Decimal.digits text.length, rest)
      | "match", rest => do
        let (text, rest) ← operand fuel rest
        let (pattern, rest) ← operand fuel rest
        return (← matchedPart text pattern, rest)
      | "index", rest => do
        let (text, rest) ← operand fuel rest
        let (chars, rest) ← operand fuel rest
        let place := text.findIdx fun c => chars.contains c
        return (Decimal.digits (if place < text.length then place + 1 else 0), rest)
      | "substr", rest => do
        let (text, rest) ← operand fuel rest
        let (start, rest) ← operand fuel rest
        let (size, rest) ← operand fuel rest
        match integer? start, integer? size with
        | some s, some n =>
          if s ≤ 0 || n ≤ 0 then return ([], rest)
          else return ((text.drop (s.toNat - 1)).take n.toNat, rest)
        | _, _ => return ([], rest)
      | _, rest => .ok (word, rest)

end

end ExprWords

/-- The value of an expression of words. -/
def expr : Program := fun words => do
  if words = ["--help".toList] || words = ["--version".toList] then
    return ← output "expr" "Usage: expr EXPRESSION\n".toList
  let words := if words.head? = some ['-', '-'] then words.drop 1 else words
  let fail (reason : Chars) : Steps Nat := do
    report "expr" reason
    return 2
  match words with
  | [] =>
    report "expr" "missing operand".toList
    return 2
  | words =>
    match ExprWords.value (16 * words.length + 32) ExprWords.ranks words with
    | .error reason => fail reason
    | .ok (text, []) =>
      let _ ← output "expr" (text ++ ['\n'])
      return if ExprWords.isTrue text then 0 else 1
    | .ok (_, word :: _) =>
      fail ("syntax error: unexpected argument '".toList ++ word ++ ['\''])

/-- The prime factors of a number from a candidate on. -/
def primeFactors : Nat → Nat → Nat → List Nat
  | 0, n, _ => if n > 1 then [n] else []
  | fuel + 1, n, candidate =>
    if n < 2 then []
    else if candidate * candidate > n then [n]
    else if n % candidate = 0 then candidate :: primeFactors fuel (n / candidate) candidate
    else primeFactors fuel n (candidate + 1)

/-- The prime factors of numbers. -/
def factor : Program := fun words => do
  let show_ (word : Chars) : Steps Nat :=
    match number? word with
    | some n =>
      let factors := (primeFactors 200000 n 2).flatMap fun f => ' ' :: Decimal.digits f
      output "factor" (word ++ ':' :: factors ++ ['\n'])
    | none => do
      report "factor" ('\'' :: word ++ "' is not a valid positive integer".toList)
      return 1
  let words ← if words ≠ [] then pure words
    else do
      match ← Steps.read 0 none with
      | .ok text => pure ((text.splitBy fun c d => isBlankChar c = isBlankChar d).filter
          fun word => !word.any isBlankChar)
      | .error _ => pure []
  let results ← words.mapM show_
  return results.foldl max 0

end Utility

end Shell

end TcpJournal
