import TcpJournal.Decimal
import TcpJournal.Shell.Syntax
import TcpJournal.Text

/-!
# Arithmetic expressions

Expressions over 64-bit integers with the operators of C: a name stands for the
number that its variable holds, and can be assigned to.  Conjunction,
disjunction and choice evaluate only what they need.  Every operation wraps
around at 64 bits.  The extended language adds powers, steps, sequences,
elements of lists and numbers of any base up to 64.
-/

namespace TcpJournal

namespace Shell

/-- Operators with two operands that are both evaluated. -/
inductive BinaryOperator where
  | multiply
  | divide
  | remainder
  | add
  | subtract
  | shiftLeft
  | shiftRight
  | less
  | lessEqual
  | greater
  | greaterEqual
  | equal
  | unequal
  | bitAnd
  | bitXor
  | bitOr
  | power
  deriving DecidableEq, Repr

/-- Operators with one operand. -/
inductive UnaryOperator where
  | negate
  | logicalNot
  | bitNot
  deriving DecidableEq, Repr

/-- An arithmetic expression. -/
inductive Expr where
  | number (n : Int)
  | name (x : List Char)
  | element (x : List Char) (index : Expr)
  | assign (x : List Char) (operator : Option BinaryOperator) (value : Expr)
  | assignAt (x : List Char) (index : Expr) (operator : Option BinaryOperator) (value : Expr)
  | stepped (x : List Char) (amount : Int) (isAfter : Bool)
  | steppedAt (x : List Char) (index : Expr) (amount : Int) (isAfter : Bool)
  | sequence (left right : Expr)
  | choice (condition consequence alternative : Expr)
  | both (left right : Expr)
  | either (left right : Expr)
  | binary (operator : BinaryOperator) (left right : Expr)
  | unary (operator : UnaryOperator) (operand : Expr)
  deriving DecidableEq, Repr

/-- A piece of an expression's text. -/
inductive Lexeme where
  | number (n : Int)
  | name (x : List Char)
  | sign (text : List Char)
  deriving DecidableEq, Repr

/-- The 64-bit integer with the same low bits. -/
def wrap64 (n : Int) : Int :=
  n.bmod (2 ^ 64)

/-- A digit of a base up to 16. -/
def digitIn? (base : Nat) (c : Char) : Option Nat :=
  (Text.hexValue? c).filter (· < base)

/-- The number that the digits of a base at the front of a text make, and the
text behind them. -/
def leadingNumber (base : Nat) (text : Chars) : Nat × Chars :=
  let digits := text.takeWhile fun c => (digitIn? base c).isSome
  (digits.foldl (fun n c => n * base + (digitIn? base c).getD 0) 0, text.drop digits.length)

/-- The number at the front of a text that starts with a digit: octal behind a
zero, hexadecimal behind `0x`, else decimal. -/
def leadingConstant (text : Chars) : Nat × Chars :=
  match text with
  | '0' :: x :: d :: rest =>
    if (x = 'x' || x = 'X') && (Text.hexValue? d).isSome then leadingNumber 16 (d :: rest)
    else leadingNumber 8 text
  | '0' :: _ => leadingNumber 8 text
  | _ => leadingNumber 10 text

/-- The signs of expressions, longer ones first. -/
def signs : List Chars :=
  ["<<=", ">>=", "<<", ">>", "<=", ">=", "==", "!=", "&&", "||", "+=", "-=", "*=", "/=", "%=",
   "&=", "|=", "^=", "<", ">", "=", "+", "-", "*", "/", "%", "&", "|", "^", "~", "!", "?", ":",
   "(", ")"].map String.toList

/-- The signs that only the extended language has. -/
def extendedSigns : List Chars :=
  ["**", "++", "--", ",", "[", "]"].map String.toList

/-- The value of a digit in a base up to 64. -/
def wideDigit? (base : Nat) (c : Char) : Option Nat :=
  let value? : Option Nat :=
    if Text.isDigit c then some (Decimal.digitValue c)
    else if 'a' ≤ c && c ≤ 'z' then some (c.toNat - 'a'.toNat + 10)
    else if 'A' ≤ c && c ≤ 'Z' then
      some (c.toNat - 'A'.toNat + (if base ≤ 36 then 10 else 36))
    else if c = '@' then some 62
    else if c = '_' then some 63
    else none
  value?.filter (· < base)

/-- The number that digits are in a base, if all of them are digits of it. -/
def wideNumber? (base : Nat) (digits : Chars) : Option Nat :=
  if digits = [] then none
  else digits.foldl (fun n? c => n?.bind fun n => (wideDigit? base c).map fun d => n * base + d)
    (some 0)

/-- The number at the front of a text in the extended language: behind a base and
a number sign, or as in the plain one. -/
def leadingWideNumber? (text : Chars) : Option (Nat × Chars) :=
  let run := text.takeWhile fun c => isNameChar c || c = '#' || c = '@'
  let base := run.takeWhile (· ≠ '#')
  let n? : Option Nat :=
    if base.length < run.length then
      (wideNumber? 10 base).bind fun b =>
        if 2 ≤ b && b ≤ 64 then wideNumber? b (run.drop (base.length + 1)) else none
    else
      match run with
      | '0' :: x :: digits =>
        if x = 'x' || x = 'X' then wideNumber? 16 digits else wideNumber? 8 (x :: digits)
      | run => wideNumber? 10 run
  n?.map fun n => (n, text.drop run.length)

/-- The lexemes of a text, unless it holds a character that starts none. -/
def lexemes? (dialect : Dialect) : Nat → Chars → Option (List Lexeme)
  | _, [] => some []
  | 0, _ => none
  | fuel + 1, c :: rest =>
    if c = ' ' || c = '\t' || c = '\n' then lexemes? dialect fuel rest
    else if Text.isDigit c then
      if dialect = .plain then
        let (n, after) := leadingConstant (c :: rest)
        (lexemes? dialect fuel after).map (.number (min n (2 ^ 63 - 1)) :: ·)
      else
        (leadingWideNumber? (c :: rest)).bind fun (n, after) =>
          (lexemes? dialect fuel after).map (.number (wrap64 n) :: ·)
    else if startsName c then
      let name := (c :: rest).takeWhile isNameChar
      (lexemes? dialect fuel ((c :: rest).drop name.length)).map (.name name :: ·)
    else
      let known := if dialect = .plain then signs else signs.take 2 ++ extendedSigns ++ signs.drop 2
      (known.find? fun s => s.isPrefixOf (c :: rest)).bind fun s =>
        (lexemes? dialect fuel ((c :: rest).drop s.length)).map (.sign s :: ·)

namespace BinaryOperator

/-- The operator of a sign, with its rank: operators of a lower rank bind
tighter. -/
def ofSign? (sign : Chars) : Option (BinaryOperator × Nat) :=
  match String.ofList sign with
  | "*" => some (multiply, 0)
  | "/" => some (divide, 0)
  | "%" => some (remainder, 0)
  | "+" => some (add, 1)
  | "-" => some (subtract, 1)
  | "<<" => some (shiftLeft, 2)
  | ">>" => some (shiftRight, 2)
  | "<" => some (less, 3)
  | "<=" => some (lessEqual, 3)
  | ">" => some (greater, 3)
  | ">=" => some (greaterEqual, 3)
  | "==" => some (equal, 4)
  | "!=" => some (unequal, 4)
  | "&" => some (bitAnd, 5)
  | "^" => some (bitXor, 6)
  | "|" => some (bitOr, 7)
  | _ => none

/-- The bits of a 64-bit integer. -/
def bits (n : Int) : Nat := (n % 2 ^ 64).toNat

/-- A power in 64 bits. -/
def powerOf (a n : Nat) : Nat :=
  if n = 0 then 1
  else
    let half := powerOf (a * a % 2 ^ 64) (n / 2)
    if n % 2 = 1 then a * half % 2 ^ 64 else half
termination_by n
decreasing_by omega

/-- The value of an operation, unless it divides by zero. -/
def result? (operator : BinaryOperator) (a b : Int) : Option Int :=
  let truth (holds : Bool) : Option Int := some (if holds then 1 else 0)
  match operator with
  | multiply => some (wrap64 (a * b))
  | divide => if b = 0 then none else some (wrap64 (a.tdiv b))
  | remainder => if b = 0 then none else some (a.tmod b)
  | add => some (wrap64 (a + b))
  | subtract => some (wrap64 (a - b))
  | shiftLeft => some (wrap64 (a * 2 ^ (b % 64).toNat))
  | shiftRight => some (a.fdiv (2 ^ (b % 64).toNat))
  | less => truth (a < b)
  | lessEqual => truth (a ≤ b)
  | greater => truth (a > b)
  | greaterEqual => truth (a ≥ b)
  | equal => truth (a = b)
  | unequal => truth (a ≠ b)
  | bitAnd => some (wrap64 (bits a &&& bits b))
  | bitXor => some (wrap64 (bits a ^^^ bits b))
  | bitOr => some (wrap64 (bits a ||| bits b))
  | power => if b < 0 then none else some (wrap64 (powerOf (bits a) b.toNat))

end BinaryOperator

namespace UnaryOperator

/-- The value of an operation. -/
def apply (operator : UnaryOperator) (a : Int) : Int :=
  match operator with
  | negate => wrap64 (-a)
  | logicalNot => if a = 0 then 1 else 0
  | bitNot => -a - 1

end UnaryOperator

namespace Expr

/-- The operator of an assignment sign: a plain one has none. -/
def assignment? (sign : Chars) : Option (Option BinaryOperator) :=
  if sign = ['='] then some none
  else if ["<<=", ">>=", "+=", "-=", "*=", "/=", "%=", "&=", "|=", "^="].any
      fun s => s.toList = sign then
    (BinaryOperator.ofSign? sign.dropLast).map fun found => some found.1
  else none

mutual

/-- Expressions one after another at the front of lexemes, and the lexemes behind
them. -/
def readSequence : Nat → List Lexeme → Except String (Expr × List Lexeme)
  | 0, _ => .error "expecting primary"
  | fuel + 1, lexemes => do
    let (left, rest) ← read fuel lexemes
    match rest with
    | .sign [','] :: rest =>
      let (right, rest) ← readSequence fuel rest
      return (.sequence left right, rest)
    | rest => return (left, rest)

/-- An expression at the front of lexemes, and the lexemes behind it. -/
def read : Nat → List Lexeme → Except String (Expr × List Lexeme)
  | 0, _ => .error "expecting primary"
  | fuel + 1, lexemes =>
    match lexemes with
    | .name x :: .sign ['['] :: inside => do
      let (index, rest) ← readIndex fuel inside
      match rest with
      | .sign s :: rest =>
        match assignment? s with
        | some operator =>
          let (value, rest) ← read fuel rest
          return (.assignAt x index operator value, rest)
        | none => readChoice fuel lexemes
      | _ => readChoice fuel lexemes
    | .name x :: .sign s :: rest =>
      match assignment? s with
      | some operator => (read fuel rest).map fun (value, rest) => (.assign x operator value, rest)
      | none => readChoice fuel lexemes
    | lexemes => readChoice fuel lexemes

/-- The index of an element behind its opening bracket, and the lexemes behind
the closing one. -/
def readIndex : Nat → List Lexeme → Except String (Expr × List Lexeme)
  | 0, _ => .error "expecting primary"
  | fuel + 1, lexemes => do
    let (index, rest) ← readSequence fuel lexemes
    match rest with
    | .sign [']'] :: rest => return (index, rest)
    | _ => .error "expecting ']'"

/-- A choice or what binds tighter. -/
def readChoice : Nat → List Lexeme → Except String (Expr × List Lexeme)
  | 0, _ => .error "expecting primary"
  | fuel + 1, lexemes => do
    let (condition, rest) ← readEither fuel lexemes
    match rest with
    | .sign ['?'] :: rest =>
      let (consequence, rest) ← readSequence fuel rest
      match rest with
      | .sign [':'] :: rest =>
        let (alternative, rest) ← readChoice fuel rest
        return (.choice condition consequence alternative, rest)
      | _ => .error "expecting ':'"
    | rest => return (condition, rest)

/-- A disjunction or what binds tighter. -/
def readEither : Nat → List Lexeme → Except String (Expr × List Lexeme)
  | 0, _ => .error "expecting primary"
  | fuel + 1, lexemes => do
    let (left, rest) ← readBoth fuel lexemes
    match rest with
    | .sign ['|', '|'] :: rest =>
      let (right, rest) ← readEither fuel rest
      return (.either left right, rest)
    | rest => return (left, rest)

/-- A conjunction or what binds tighter. -/
def readBoth : Nat → List Lexeme → Except String (Expr × List Lexeme)
  | 0, _ => .error "expecting primary"
  | fuel + 1, lexemes => do
    let (first, rest) ← readPower fuel lexemes
    let (left, rest) ← readBinary fuel 7 first rest
    match rest with
    | .sign ['&', '&'] :: rest =>
      let (right, rest) ← readBoth fuel rest
      return (.both left right, rest)
    | rest => return (left, rest)

/-- The operations up to a rank that follow an operand. -/
def readBinary : Nat → Nat → Expr → List Lexeme → Except String (Expr × List Lexeme)
  | 0, _, _, _ => .error "expecting primary"
  | fuel + 1, limit, left, lexemes =>
    match lexemes with
    | .sign s :: rest =>
      match BinaryOperator.ofSign? s with
      | none => .ok (left, lexemes)
      | some (operator, rank) =>
        if rank > limit then .ok (left, lexemes)
        else do
          let (operand, rest) ← readPower fuel rest
          let (right, rest) ←
            if rank = 0 then .ok (operand, rest) else readBinary fuel (rank - 1) operand rest
          readBinary fuel limit (.binary operator left right) rest
    | lexemes => .ok (left, lexemes)

/-- A power or what binds tighter. -/
def readPower : Nat → List Lexeme → Except String (Expr × List Lexeme)
  | 0, _ => .error "expecting primary"
  | fuel + 1, lexemes => do
    let (base, rest) ← readUnary fuel lexemes
    match rest with
    | .sign ['*', '*'] :: rest =>
      let (exponent, rest) ← readPower fuel rest
      return (.binary .power base exponent, rest)
    | rest => return (base, rest)

/-- An operand with the operators in front of it. -/
def readUnary : Nat → List Lexeme → Except String (Expr × List Lexeme)
  | 0, _ => .error "expecting primary"
  | fuel + 1, lexemes =>
    match lexemes with
    | .number n :: rest => .ok (.number n, rest)
    | .name x :: .sign ['['] :: inside => do
      let (index, rest) ← readIndex fuel inside
      match rest with
      | .sign ['+', '+'] :: rest => return (.steppedAt x index 1 true, rest)
      | .sign ['-', '-'] :: rest => return (.steppedAt x index (-1) true, rest)
      | rest => return (.element x index, rest)
    | .name x :: .sign ['+', '+'] :: rest => .ok (.stepped x 1 true, rest)
    | .name x :: .sign ['-', '-'] :: rest => .ok (.stepped x (-1) true, rest)
    | .name x :: rest => .ok (.name x, rest)
    | .sign ['+', '+'] :: rest => readStepped fuel 1 rest
    | .sign ['-', '-'] :: rest => readStepped fuel (-1) rest
    | .sign ['+'] :: rest => readUnary fuel rest
    | .sign ['-'] :: rest => (readUnary fuel rest).map fun (e, rest) => (.unary .negate e, rest)
    | .sign ['!'] :: rest =>
      (readUnary fuel rest).map fun (e, rest) => (.unary .logicalNot e, rest)
    | .sign ['~'] :: rest => (readUnary fuel rest).map fun (e, rest) => (.unary .bitNot e, rest)
    | .sign ['('] :: rest => do
      let (e, rest) ← readSequence fuel rest
      match rest with
      | .sign [')'] :: rest => return (e, rest)
      | _ => .error "expecting ')'"
    | _ => .error "expecting primary"

/-- A variable behind two signs, which is changed before it is used; two signs in
front of anything else change nothing. -/
def readStepped : Nat → Int → List Lexeme → Except String (Expr × List Lexeme)
  | 0, _, _ => .error "expecting primary"
  | fuel + 1, amount, lexemes =>
    match lexemes with
    | .name x :: .sign ['['] :: inside => do
      let (index, rest) ← readIndex fuel inside
      return (.steppedAt x index amount false, rest)
    | .name x :: rest => .ok (.stepped x amount false, rest)
    | lexemes => readUnary fuel lexemes

end

/-- The expression that a text is; an empty one is zero in the extended language. -/
def ofText (dialect : Dialect) (text : Chars) : Except String Expr :=
  match lexemes? dialect (text.length + 1) text with
  | none => .error "expecting primary"
  | some lexemes =>
    if lexemes = [] && dialect = .extended then .ok (.number 0)
    else
    match readSequence (12 * lexemes.length + 12) lexemes with
    | .error e => .error e
    | .ok (e, []) => .ok e
    | .ok _ => .error "expecting EOF"

/-- The text by which an element is read and set. -/
def elementName (x : Chars) (index : Int) : Chars :=
  x ++ '[' :: Decimal.ofInt index ++ [']']

/-- The value of an expression where variables are read and set by actions. -/
def value {m : Type → Type} [Monad m] (lookUp : Chars → m Int) (set : Chars → Int → m Unit)
    (fail : String → m Int) : Expr → m Int
  | number n => return n
  | name x => lookUp x
  | element x index => do
    lookUp (elementName x (← index.value lookUp set fail))
  | assign x operator e => do
    let right ← e.value lookUp set fail
    changed x operator right
  | assignAt x index operator e => do
    let place := elementName x (← index.value lookUp set fail)
    let right ← e.value lookUp set fail
    changed place operator right
  | stepped x amount isAfter => step x amount isAfter
  | steppedAt x index amount isAfter => do
    step (elementName x (← index.value lookUp set fail)) amount isAfter
  | sequence left right => do
    let _ ← left.value lookUp set fail
    right.value lookUp set fail
  | choice condition consequence alternative => do
    if (← condition.value lookUp set fail) ≠ 0 then consequence.value lookUp set fail
    else alternative.value lookUp set fail
  | both left right => do
    if (← left.value lookUp set fail) = 0 then return 0
    else return if (← right.value lookUp set fail) = 0 then 0 else 1
  | either left right => do
    if (← left.value lookUp set fail) ≠ 0 then return 1
    else return if (← right.value lookUp set fail) = 0 then 0 else 1
  | binary operator left right => do
    let a ← left.value lookUp set fail
    let b ← right.value lookUp set fail
    match operator.result? a b with
    | some n => return n
    | none => fail "division by zero"
  | unary operator operand => return operator.apply (← operand.value lookUp set fail)
where
  /-- Give a variable a value, or what an operator makes of its own and that. -/
  changed (x : Chars) (operator : Option BinaryOperator) (right : Int) : m Int := do
    let result ←
      match operator with
      | none => pure right
      | some operator =>
        match operator.result? (← lookUp x) right with
        | some n => pure n
        | none => fail "division by zero"
    set x result
    return result
  /-- Add to a variable; the answer is what it was before or what it is then. -/
  step (x : Chars) (amount : Int) (isAfter : Bool) : m Int := do
    let before ← lookUp x
    let result := wrap64 (before + amount)
    set x result
    return if isAfter then before else result

end Expr

/-- The number that a variable's text stands for in an expression: an optional
sign and a constant between blanks, or zero for blanks alone. -/
def variableNumber? (text : Chars) : Option Int :=
  let isBlank (c : Char) : Bool := c = ' ' || ('\t' ≤ c && c ≤ '\x0d')
  let trimmed := text.dropWhile isBlank
  let (negative, digits) :=
    match trimmed with
    | '-' :: rest => (true, rest)
    | '+' :: rest => (false, rest)
    | rest => (false, rest)
  if text.all isBlank then some 0
  else if digits.head?.any Text.isDigit then
    let (n, after) := leadingConstant digits
    let limit := if negative then 2 ^ 63 else 2 ^ 63 - 1
    if after.all isBlank && n ≤ limit then some (if negative then -(n : Int) else n) else none
  else none

end Shell

end TcpJournal
