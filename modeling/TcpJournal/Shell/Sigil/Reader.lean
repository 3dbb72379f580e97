import TcpJournal.Shell.Sigil.Syntax
import TcpJournal.Text

/-!
# Reading scripts of names with sigils

The reader takes a script from the front of a text.  What a sign means depends on
whether an operand or an operator may stand at its place, so there are no tokens:
each reader looks at the characters.  Every reader takes a bound for its depth,
which the length of the text provides.
-/

namespace TcpJournal

namespace Shell

namespace Sigil

/-- What is left of a script, the line, whether the word `say` is known, and the
functions of libraries that are known without the names of their libraries. -/
structure Reading where
  rest : Chars
  line : Nat
  knowsSay : Bool
  used : List Chars
  deriving DecidableEq, Repr

/-- A reader of scripts. -/
abbrev Reader := StateT Reading (Except Malformed)

namespace Reader

/-- Give up. -/
def fail {α : Type} : Reader α := do
  let s ← get
  throw ⟨"syntax error".toList, s.line⟩

/-- The text behind blanks and comments, and the number of lines that they end. -/
def behindBlanks : Nat → Chars → Nat → Chars × Nat
  | 0, text, lines => (text, lines)
  | fuel + 1, text, lines =>
    match text with
    | '\n' :: rest => behindBlanks fuel rest (lines + 1)
    | '#' :: rest => behindBlanks fuel (rest.dropWhile (· ≠ '\n')) lines
    | c :: rest => if isBlankChar c then behindBlanks fuel rest lines else (text, lines)
    | [] => ([], lines)

/-- Step over blanks and comments; the answer is the text behind them. -/
def skip : Reader Chars := do
  let s ← get
  let (rest, lines) := behindBlanks (s.rest.length + 1) s.rest 0
  set { s with rest, line := s.line + lines }
  return rest

/-- Step over characters. -/
def advance (count : Nat) : Reader Unit :=
  modify fun s =>
    { s with rest := s.rest.drop count, line := s.line + (s.rest.take count).count '\n' }

/-- Step over a sign behind blanks if it is the next text. -/
def take (sign : String) : Reader Bool := do
  if sign.toList.isPrefixOf (← skip) then
    advance sign.length
    return true
  else return false

/-- Step over a sign that has to be there. -/
def expect (sign : String) : Reader Unit := do
  if ← take sign then return () else fail

/-- Step over a word if it is the next text and no longer word is. -/
def takeWord (word : String) : Reader Bool := do
  let rest ← skip
  if word.toList.isPrefixOf rest && !((rest.drop word.length).head?.any isNameChar) then
    advance word.length
    return true
  else return false

/-- The name at the place, which may be empty; its parts may be joined by two
colons. -/
def name : Reader Chars := do
  let rest := (← get).rest
  let rec size : Nat → Chars → Nat
    | 0, _ => 0
    | fuel + 1, text =>
      match text with
      | ':' :: ':' :: c :: _ => if startsName c then size fuel (text.drop 2) + 2 else 0
      | c :: more => if isNameChar c then size fuel more + 1 else 0
      | [] => 0
  let n := if rest.head?.any startsName then size (rest.length + 1) rest else 0
  advance n
  return rest.take n

/-- A bound for the number of steps until the end of the text. -/
def budget : Reader Nat := do
  return (← get).rest.length + 2

end Reader

/-- The sign that closes what a sign opens. -/
def closingSign (c : Char) : Char :=
  match c with
  | '(' => ')'
  | '[' => ']'
  | '\x7b' => '\x7d'
  | '<' => '>'
  | c => c

/-- The text in front of the sign that closes it, and the text behind that sign. -/
def closedText? (opening closing : Char) : Nat → Nat → Chars → Chars → Option (Chars × Chars)
  | 0, _, _, _ => none
  | _, _, _, [] => none
  | fuel + 1, depth, before, '\\' :: c :: rest =>
    closedText? opening closing fuel depth (c :: '\\' :: before) rest
  | fuel + 1, depth, before, c :: rest =>
    if c = closing && depth = 0 then some (before.reverse, rest)
    else if c = closing then closedText? opening closing fuel (depth - 1) (c :: before) rest
    else if c = opening then closedText? opening closing fuel (depth + 1) (c :: before) rest
    else closedText? opening closing fuel depth (c :: before) rest

/-- The text up to the sign that closes what the next sign opens. -/
def delimited : Reader (Chars × Char) := do
  match (← get).rest with
  | [] => Reader.fail
  | opening :: rest =>
    match closedText? opening (closingSign opening) (rest.length + 1) 0 [] rest with
    | none => Reader.fail
    | some (text, after) =>
      Reader.advance (1 + rest.length - after.length)
      return (text, opening)

/-- The second text of an operator with two: behind brackets it has its own. -/
def secondDelimited (opening : Char) : Reader Chars := do
  if closingSign opening ≠ opening then
    let _ ← Reader.skip
    return (← delimited).1
  else
    let rest := (← get).rest
    match closedText? opening opening (rest.length + 1) 0 [] rest with
    | none => Reader.fail
    | some (text, after) =>
      Reader.advance (rest.length - after.length)
      return text

/-- A text in single quotes: a backslash protects itself and the quotes. -/
def plainText (closing : Char) : Chars → Chars
  | '\\' :: c :: rest =>
    if c = '\\' || c = closing then c :: plainText closing rest
    else '\\' :: plainText closing (c :: rest)
  | c :: rest => c :: plainText closing rest
  | [] => []

/-- The characters of an escape behind its backslash, and the text behind it. -/
def escaped (text : Chars) : Chars × Chars :=
  match text with
  | 'n' :: rest => (['\n'], rest)
  | 't' :: rest => (['\t'], rest)
  | 'r' :: rest => (['\x0d'], rest)
  | 'a' :: rest => (['\x07'], rest)
  | 'e' :: rest => (['\x1b'], rest)
  | 'f' :: rest => (['\x0c'], rest)
  | 'b' :: rest => (['\x08'], rest)
  | 'x' :: '\x7b' :: rest =>
    let digits := rest.takeWhile fun c => (Text.hexValue? c).isSome
    let n := digits.foldl (fun n c => 16 * n + (Text.hexValue? c).getD 0) 0
    (if n < 256 then [Char.ofNat n]
      else (String.singleton (Char.ofNat n)).toUTF8.toList.map fun b => Char.ofNat b.toNat,
      rest.drop (digits.length + 1))
  | 'x' :: rest =>
    match hexByte? rest with
    | some (c, rest) => ([c], rest)
    | none => (['\x00'], rest)
  | c :: rest =>
    if isOctal c then
      let (c, rest) := octalByte 3 (c :: rest)
      ([c], rest)
    else ([c], rest)
  | [] => (['\\'], [])

/-- A name of one sign behind the sigil of a value. -/
def isSignName (c : Char) : Bool :=
  "_&!@?,;.0123456789$\\/|\"+\x60'".toList.contains c

/-- The operators between two operands with their levels, from the loosest one on. -/
def operators : List (String × Nat) :=
  [("<=>", 5), ("||", 1), ("//", 1), ("&&", 2), ("==", 5), ("!=", 5), ("<=", 6), (">=", 6),
   ("<<", 8), (">>", 8), ("=~", 11), ("!~", 11), ("**", 0), ("..", 0), ("|", 3), ("^", 3),
   ("&", 4), ("<", 6), (">", 6), ("+", 9), ("-", 9), (".", 9), ("*", 10), ("/", 10), ("%", 10)]

/-- The operators between two operands that are words, with their levels. -/
def wordOperators : List (String × Nat) :=
  [("eq", 5), ("ne", 5), ("cmp", 5), ("lt", 6), ("gt", 6), ("le", 6), ("ge", 6), ("x", 10)]

/-- The operators that may stand in front of the sign of an assignment. -/
def assigningSigns : List String :=
  ["**", "||", "//", "&&", "<<", ">>", "+", "-", "*", "/", ".", "%", "x", "&", "|", "^"]

/-- The operator between two operands at the front of a text, with its level. -/
def operatorAt? (text : Chars) : Option (String × Nat) :=
  let found? := operators.find? fun entry => entry.1.toList.isPrefixOf text
  let word? := wordOperators.find? fun (word, _) =>
    word.toList.isPrefixOf text &&
      !((text.drop word.length).head?.any fun c =>
        isNameChar c && !(word = "x" && Text.isDigit c))
  match found?.orElse fun _ => word? with
  | none => none
  | some (sign, level) =>
    let next? := (text.drop sign.length).head?
    let isAssignment : Bool := assigningSigns.contains sign && next? = some '=' &&
      (text.drop (sign.length + 1)).head? ≠ some '='
    if isAssignment || level = 0 then none else some (sign, level)

/-- The sign of an assignment at the front of a text, without the equals sign. -/
def assignmentAt? (text : Chars) : Option String :=
  let signs := "" :: assigningSigns
  (signs.find? fun sign => (sign.toList ++ ['=']).isPrefixOf text).filter fun sign =>
    let next? := (text.drop (sign.length + 1)).head?
    next? ≠ some '=' && next? ≠ some '~' && (sign ≠ "" || next? ≠ some '>')

/-- The functions of at most one argument. -/
def unaryFunctions : List String :=
  ["abs", "alarm", "chdir", "chomp", "chop", "chr", "close", "cos", "defined", "delete", "each",
   "eof", "exists", "exit", "exp", "fc", "getc", "hex", "int", "keys", "lc", "lcfirst", "length",
   "localtime", "gmtime", "log", "oct", "ord", "pop", "quotemeta", "rand", "readline", "ref",
   "require", "rmdir", "scalar", "shift", "sin", "sleep", "sqrt", "srand", "uc", "ucfirst",
   "umask", "undef", "values"]

/-- The functions of many arguments. -/
def listFunctions : List String :=
  ["atan2", "binmode", "die", "exec", "index", "join", "kill", "mkdir", "open", "pack", "push",
   "reverse", "rindex", "select", "splice", "split", "sprintf", "substr", "system", "unlink",
   "unpack", "unshift", "utime", "waitpid", "warn", "printf", "return"]

/-- The functions without arguments. -/
def bareFunctions : List String :=
  ["fork", "getppid", "time", "times", "wait", "wantarray"]

/-- The functions of libraries. -/
def libraries : List (String × List String) :=
  [("POSIX", ["_exit", "abort", "ceil", "floor", "raise"]),
   ("List::Util", ["max", "min", "sum", "sum0"])]

/-- The functions that the use of a library makes known: those that it lists, or all
functions of one that lists none. -/
def libraryWords (used : Chars) : List Chars :=
  let library := used.takeWhile fun c => isNameChar c || c = ':'
  let listed := (used.drop library.length).dropWhile isBlankChar
  let names := (libraries.lookup (String.ofList library)).getD []
  let chosen := if listed = [] then (if library = "POSIX".toList then names else [])
    else names.filter fun name => (List.range listed.length).any fun i =>
      name.toList.isPrefixOf (listed.drop i)
  chosen.map fun name => library ++ "::".toList ++ name.toList

/-- The words that end an expression. -/
def endingWords : List String :=
  ["and", "cmp", "eq", "for", "foreach", "ge", "gt", "if", "le", "lt", "ne", "or", "unless",
   "until", "while", "x", "xor"]

/-- An operand may start at the front of a text. -/
def startsOperand (isList : Bool) (text : Chars) : Bool :=
  let word := String.ofList (text.takeWhile isNameChar)
  match text with
  | [] => false
  | c :: rest =>
    if ")]\x7d;,:?=.*>|^".toList.contains c then false
    else if c = '/' || c = '<' then
      isList && (rest.head? ≠ some '=')
    else if c = '%' || c = '&' then rest.head?.any startsName
    else !endingWords.contains word

/-- A number. -/
def number : Reader Expr := do
  let text := (← get).rest
  let inBase (base : Nat) (size : Nat) : Reader Expr := do
    let digits := (text.drop size).takeWhile fun c => (Text.hexValue? c).isSome || c = '_'
    Reader.advance (size + digits.length)
    let n := (digits.filter (· ≠ '_')).foldl
      (fun n c => base * n + (Text.hexValue? c).getD 0) 0
    return .constant (.ofNat n)
  match text with
  | '0' :: 'x' :: _ => inBase 16 2
  | '0' :: 'b' :: _ => inBase 2 2
  | '0' :: c :: _ => if Text.isDigit c then inBase 8 1 else decimal text
  | text => decimal text
where
  /-- A decimal number; two points behind it are an operator. -/
  decimal (text : Chars) : Reader Expr := do
    let isDigit (c : Char) : Bool := Text.isDigit c || c = '_'
    let whole := text.takeWhile isDigit
    let after := text.drop whole.length
    let fraction : Chars := match after with
      | '.' :: rest => if rest.head? = some '.' then [] else '.' :: rest.takeWhile isDigit
      | _ => []
    let after := after.drop fraction.length
    let exponent : Chars := match after with
      | c :: rest =>
        if c = 'e' || c = 'E' then
          let sign := rest.takeWhile fun d => d = '+' || d = '-'
          let digits := (rest.drop sign.length).takeWhile Text.isDigit
          if digits = [] then [] else c :: sign ++ digits
        else []
      | [] => []
    let all := whole ++ fraction ++ exponent
    Reader.advance all.length
    return .constant (Scalar.numberOfText (all.filter (· ≠ '_')))

mutual

/-- The pieces of a text in double quotes or of a pattern. -/
def pieces (isPattern : Bool) : Nat → Chars → Chars → Reader (List Expr)
  | 0, _, _ => Reader.fail
  | fuel + 1, text, before =>
    let done : List Expr := if before = [] then [] else [.constant (.text before.reverse)]
    let further (first : Expr) (rest : Chars) : Reader (List Expr) := do
      return done ++ first :: (← pieces isPattern fuel rest [])
    match text with
    | [] => return done
    | '\\' :: c :: rest => do
      if isPattern then pieces isPattern fuel rest (c :: '\\' :: before)
      else if c = 'U' || c = 'L' || c = 'Q' then
        let (inside, after) := endOfCase rest.length [] rest
        let function := if c = 'U' then "uc" else if c = 'L' then "lc" else "quotemeta"
        let inner ← pieces isPattern fuel inside []
        further (.call function.toList [.joined inner]) after
      else
        let (chars, rest) := escaped (c :: rest)
        pieces isPattern fuel rest (chars.reverse ++ before)
    | '$' :: c :: rest => do
      let isVariable : Bool := startsName c || c = '\x7b' ||
        (isSignName c && !(isPattern && "|)/'\"\x60+\\.?,;!".toList.contains c)) ||
        (c = ':' && rest.head? = some ':')
      if c = '#' && !isPattern && rest.head?.any startsName then
        let name := rest.takeWhile isNameChar
        further (.lastIndex name) (rest.drop name.length)
      else if !isVariable then pieces isPattern fuel (c :: rest) ('$' :: before)
      else
        let (e, rest) ← variableIn isPattern fuel (c :: rest)
        further e rest
    | '@' :: c :: rest => do
      let separated (items : Expr) : Expr := .call "join".toList [.scalar ['"'], items]
      if startsName c then
        let name := (c :: rest).takeWhile isNameChar
        let rest := (c :: rest).drop name.length
        match rest with
        | '[' :: inside =>
          match closedText? '[' ']' (inside.length + 1) 0 [] inside with
          | some (index, after) =>
            further (separated (.slice name (← apart fuel index))) after
          | none => Reader.fail
        | rest => further (separated (.array name)) rest
      else if c = '\x7b' && rest.head? = some '[' then
        match closedText? '[' ']' (rest.length + 1) 0 [] (rest.drop 1) with
        | some (inside, '\x7d' :: after) => further (separated (← apart fuel inside)) after
        | _ => Reader.fail
      else pieces isPattern fuel (c :: rest) ('@' :: before)
    | c :: rest => pieces isPattern fuel rest (c :: before)
where
  /-- The text up to the mark that ends a change of letters, and what follows it. -/
  endOfCase : Nat → Chars → Chars → Chars × Chars
    | 0, before, rest => (before.reverse, rest)
    | _, before, '\\' :: 'E' :: rest => (before.reverse, rest)
    | fuel + 1, before, c :: rest => endOfCase fuel (c :: before) rest
    | _, before, [] => (before.reverse, [])

/-- The variable inside quotes behind the sigil of a value, with its subscripts, and the
text behind it. -/
def variableIn (isPattern : Bool) : Nat → Chars → Reader (Expr × Chars)
  | 0, _ => Reader.fail
  | fuel + 1, text => do
    let (name, rest) : Chars × Chars :=
      match text with
      | '\x7b' :: inside =>
        let name := inside.takeWhile (· ≠ '\x7d')
        (name, inside.drop (name.length + 1))
      | c :: rest =>
        if startsName c then
          let name := text.takeWhile isNameChar
          (name, text.drop name.length)
        else if Text.isDigit c then
          let name := text.takeWhile Text.isDigit
          (name, text.drop name.length)
        else ([c], rest)
      | [] => ([], [])
    let subscript (inside : Chars) (closing : Char) : Option (Chars × Chars) :=
      closedText? (if closing = ']' then '[' else '\x7b') closing (inside.length + 1) 0 [] inside
    match rest with
    | '[' :: inside =>
      match subscript inside ']' with
      | some (index, after) =>
        let isNumber : Bool := index ≠ [] &&
          (index.all Text.isDigit || (index.head? = some '-' && (index.drop 1).all Text.isDigit))
        if isNumber || index.head? = some '$' then
          return (.element name (← apart fuel index), after)
        else return (.scalar name, rest)
      | none => return (.scalar name, rest)
    | '\x7b' :: inside =>
      match subscript inside '\x7d' with
      | some (key, after) =>
        if isPattern && key.all fun c => Text.isDigit c || c = ',' then return (.scalar name, rest)
        else return (.entry name (← keyOf fuel key), after)
      | none => return (.scalar name, rest)
    | rest => return (.scalar name, rest)

/-- The key that a text in braces is: a word, or an expression. -/
def keyOf : Nat → Chars → Reader Expr
  | 0, _ => Reader.fail
  | fuel + 1, text =>
    let bare := (text.dropWhile isBlankChar).reverse.dropWhile isBlankChar |>.reverse
    let word := if bare.head? = some '-' then bare.drop 1 else bare
    if isName word then return .constant (.text bare) else apart fuel text

/-- The expression that a text is as a whole. -/
def apart : Nat → Chars → Reader Expr
  | 0, _ => Reader.fail
  | fuel + 1, text => do
    let outer ← get
    set { outer with rest := text }
    let e ← expression fuel
    if (← Reader.skip) ≠ [] then Reader.fail
    set outer
    return e

/-- A text in double quotes as an expression. -/
def quoted (isPattern : Bool) : Nat → Chars → Reader Expr
  | 0, _ => Reader.fail
  | fuel + 1, text => do
    match ← pieces isPattern fuel text [] with
    | [] => return .constant (.text [])
    | [.constant v] => return .constant v
    | pieces => return .joined pieces

/-- The loosest operators: `or` and `xor`. -/
def expression : Nat → Reader Expr
  | 0 => Reader.fail
  | fuel + 1 => do
    let left ← conjunction fuel
    if ← Reader.takeWord "or" then return .either left (← expression fuel)
    else if ← Reader.takeWord "xor" then
      let right ← expression fuel
      return .binary "ne".toList (.unary ['!'] left) (.unary ['!'] right)
    else return left

/-- The operator `and`. -/
def conjunction : Nat → Reader Expr
  | 0 => Reader.fail
  | fuel + 1 => do
    let left ← negation fuel
    if ← Reader.takeWord "and" then return .both left (← conjunction fuel) else return left

/-- The operator `not`. -/
def negation : Nat → Reader Expr
  | 0 => Reader.fail
  | fuel + 1 => do
    if ← Reader.takeWord "not" then return .unary ['!'] (← negation fuel) else commas fuel

/-- Expressions between commas. -/
def commas : Nat → Reader Expr
  | 0 => Reader.fail
  | fuel + 1 => do
    let first ← assignment fuel
    match ← items fuel with
    | [] => return first
    | rest => return .list (first :: rest)

/-- The expressions behind commas. -/
def items : Nat → Reader (List Expr)
  | 0 => Reader.fail
  | fuel + 1 => do
    let isComma ← if ← Reader.take "=>" then pure true else Reader.take ","
    if isComma then
      if startsOperand true (← Reader.skip) then
        let e ← assignment fuel
        return e :: (← items fuel)
      else items fuel
    else return []

/-- An assignment or what binds tighter. -/
def assignment : Nat → Reader Expr
  | 0 => Reader.fail
  | fuel + 1 => do
    let left ← conditional fuel
    match assignmentAt? (← Reader.skip) with
    | none => return left
    | some sign =>
      Reader.advance (sign.length + 1)
      return .assign sign.toList left (← assignment fuel)

/-- A choice between two expressions. -/
def conditional : Nat → Reader Expr
  | 0 => Reader.fail
  | fuel + 1 => do
    let condition ← range fuel
    if ← Reader.take "?" then
      let consequence ← assignment fuel
      Reader.expect ":"
      return .conditional condition consequence (← assignment fuel)
    else return condition

/-- A row of values. -/
def range : Nat → Reader Expr
  | 0 => Reader.fail
  | fuel + 1 => do
    let first ← operand fuel
    let first ← chain fuel 1 first
    if ← Reader.take ".." then
      let last ← operand fuel
      return .range first (← chain fuel 1 last)
    else return first

/-- What operators of a level or a tighter one make of an operand and those behind
it. -/
def chain : Nat → Nat → Expr → Reader Expr
  | 0, _, _ => Reader.fail
  | fuel + 1, least, left => do
    match operatorAt? (← Reader.skip) with
    | none => return left
    | some (sign, level) =>
      if level < least then return left
      else
        Reader.advance sign.length
        let right ← operand fuel
        let right ← chain fuel (level + 1) right
        let both : Expr :=
          match sign with
          | "||" => .either left right
          | "//" => .defaulted left right
          | "&&" => .both left right
          | "=~" | "!~" => bound left (sign = "!~") right
          | sign => .binary sign.toList left right
        chain fuel least both
where
  /-- A pattern that is applied to an expression. -/
  bound (target : Expr) (isNegated : Bool) : Expr → Expr
    | .matching none _ pattern flags => .matching (some target) isNegated pattern flags
    | .substitution none pattern replacement flags =>
      .substitution (some target) pattern replacement flags
    | .transliteration none source target' flags =>
      .transliteration (some target) source target' flags
    | e => .matching (some target) isNegated e []

/-- An operand with the operators in front of it. -/
def operand : Nat → Reader Expr
  | 0 => Reader.fail
  | fuel + 1 => do
    let text ← Reader.skip
    match text with
    | '!' :: _ =>
      Reader.advance 1
      return .unary ['!'] (← operand fuel)
    | '~' :: _ =>
      Reader.advance 1
      return .unary ['~'] (← operand fuel)
    | '+' :: '+' :: _ =>
      Reader.advance 2
      return .stepped true true (← operand fuel)
    | '-' :: '-' :: _ =>
      Reader.advance 2
      return .stepped true false (← operand fuel)
    | '+' :: _ =>
      Reader.advance 1
      operand fuel
    | '-' :: c :: rest =>
      Reader.advance 1
      let isTest : Bool := "edfrwxszl".toList.contains c && !rest.head?.any isNameChar &&
        !(rest.dropWhile isBlankChar).head?.any fun d => d = '=' || d = ',' || d = ')'
      if isTest then
        Reader.advance 1
        return .unary ['-', c] (← operand fuel)
      else return .unary ['-'] (← operand fuel)
    | _ =>
      let e ← term fuel
      let e ←
        if ← Reader.take "++" then pure (.stepped false true e)
        else if ← Reader.take "--" then pure (.stepped false false e)
        else pure e
      let after ← Reader.skip
      if "**".toList.isPrefixOf after && !"**=".toList.isPrefixOf after then
        Reader.advance 2
        return .binary "**".toList e (← operand fuel)
      else return e

/-- The expressions up to a closing sign. -/
def enclosed : Nat → String → Reader (List Expr)
  | 0, _ => Reader.fail
  | fuel + 1, closing => do
    if ← Reader.take closing then return []
    else
      let e ← expression fuel
      Reader.expect closing
      match e with
      | .list items => return items
      | e => return [e]

/-- A value, a variable, or a call. -/
def term : Nat → Reader Expr
  | 0 => Reader.fail
  | fuel + 1 => do
    let text ← Reader.skip
    match text with
    | '"' :: _ => quoted false fuel (← delimited).1
    | '\'' :: _ => return .constant (.text (plainText '\'' (← delimited).1))
    | '\x60' :: _ => return .outputOf (← quoted false fuel (← delimited).1)
    | '/' :: _ => pattern fuel (← delimited).1
    | '$' :: '#' :: c :: _ =>
      Reader.advance 2
      if c = '\x7b' then
        let (inside, _) ← delimited
        return .lastIndex inside
      else return .lastIndex (← Reader.name)
    | '$' :: _ =>
      Reader.advance 1
      variableHere fuel
    | '@' :: _ =>
      Reader.advance 1
      let name ← Reader.name
      if name = [] then Reader.fail
      else
        match (← get).rest with
        | '[' :: _ =>
          Reader.advance 1
          return .slice name (.list (← enclosed fuel "]"))
        | '\x7b' :: _ =>
          Reader.advance 1
          return .entrySlice name (.list (← enclosed fuel "\x7d"))
        | _ => return .array name
    | '%' :: _ =>
      Reader.advance 1
      let name ← Reader.name
      if name = [] then Reader.fail else return .table name
    | '&' :: _ =>
      Reader.advance 1
      let name ← Reader.name
      let arguments ← if ← Reader.take "(" then enclosed fuel ")" else pure [.array ['_']]
      return .call name arguments
    | '(' :: _ =>
      Reader.advance 1
      let inside ← enclosed fuel ")"
      if ← Reader.take "[" then return .listSlice (.list inside) (.list (← enclosed fuel "]"))
      else return .list inside
    | '<' :: rest =>
      let handle := rest.takeWhile (· ≠ '>')
      if handle.length < rest.length && handle.all fun c => isNameChar c || c = '$' then
        Reader.advance (handle.length + 2)
        return .lineOf handle
      else Reader.fail
    | c :: rest =>
      if Text.isDigit c || (c = '.' && rest.head?.any Text.isDigit) then number
      else if startsName c then word fuel
      else Reader.fail
    | [] => Reader.fail

/-- A pattern with its flags. -/
def pattern : Nat → Chars → Reader Expr
  | 0, _ => Reader.fail
  | fuel + 1, text => do
    let e ← quoted true fuel text
    let flags := (← get).rest.takeWhile fun c => 'a' ≤ c && c ≤ 'z'
    Reader.advance flags.length
    return .matching none false e flags

/-- A variable behind the sigil of a value, with its subscript. -/
def variableHere : Nat → Reader Expr
  | 0 => Reader.fail
  | fuel + 1 => do
    let text := (← get).rest
    let name ←
      match text with
      | '\x7b' :: _ => pure ((← delimited).1.filter fun c => !isBlankChar c)
      | c :: rest =>
        if startsName c || c = ':' then Reader.name
        else if Text.isDigit c then
          let name := text.takeWhile Text.isDigit
          Reader.advance name.length
          pure name
        else if c = '$' && rest.head?.any startsName then Reader.fail
        else if isSignName c then do
          Reader.advance 1
          pure [c]
        else Reader.fail
      | [] => Reader.fail
    match (← get).rest with
    | '[' :: _ =>
      Reader.advance 1
      let index ← expression fuel
      Reader.expect "]"
      return .element name index
    | '\x7b' :: _ =>
      let (key, _) ← delimited
      return .entry name (← keyOf fuel key)
    | _ => return .scalar name

/-- What a word starts: a quoted text, a pattern, a declaration, a block or a call. -/
def word : Nat → Reader Expr
  | 0 => Reader.fail
  | fuel + 1 => do
    let start ← get
    let name ← Reader.name
    let name := (start.used.find? fun known =>
      ("::".toList ++ name).isSuffixOf known).getD name
    let named := String.ofList name
    let after ← Reader.skip
    let isKey : Bool := "=>".toList.isPrefixOf after
    let isQuoting : Bool := ["q", "qq", "qw", "qr", "qx", "m", "s", "tr", "y"].contains named &&
      (after.head?.any fun c => !isBlankChar c && c ≠ ',' && c ≠ ';' && c ≠ ')') && !isKey &&
      !(start.rest.drop name.length).head?.any fun c => c = '='
    if isKey then return .constant (.text name)
    else if isQuoting then quotingWord fuel named
    else
      match named with
      | "my" | "our" | "local" | "state" => return .mine (← operand fuel)
      | "do" =>
        if after.head? = some '\x7b' then return .block (← body fuel) else Reader.fail
      | "eval" =>
        if after.head? = some '\x7b' then return .guarded (← body fuel)
        else return .call name (← oneArgument fuel)
      | "sub" => return .code (← body fuel)
      | "print" | "printf" => printing fuel name
      | "say" =>
        if start.knowsSay then printing fuel name else return .call name []
      | "sort" | "map" | "grep" => blockWord fuel name
      | "next" | "last" | "redo" =>
        if after.head?.any fun c => 'A' ≤ c && c ≤ 'Z' then
          let _ ← Reader.name
        return .call name []
      | "__LINE__" => return .constant (.ofNat start.line)
      | named =>
        if unaryFunctions.contains named then return .call name (← oneArgument fuel)
        else if bareFunctions.contains named then
          if ← Reader.take "(" then Reader.expect ")"
          return .call name []
        else if name.all fun c => ('A' ≤ c && c ≤ 'Z') || c = '_' || Text.isDigit c then
          return .constant (.text name)
        else if listFunctions.contains named || after.head? = some '(' then
          return .call name (← arguments fuel)
        else if startsOperand false after && after.head? ≠ some '\x7b' then
          return .call name (← arguments fuel)
        else if start.used.contains name || libraries.any fun l => l.1.toList.isPrefixOf name then
          return .call name []
        else
          let call : Expr := .call name []
          return .conditional (.call "defined".toList [call]) call (.constant (.text name))

/-- The texts behind a word that quotes them. -/
def quotingWord : Nat → String → Reader Expr
  | 0, _ => Reader.fail
  | fuel + 1, named => do
    let (text, opening) ← delimited
    let closing := closingSign opening
    let flagsHere : Reader Chars := do
      let flags := (← get).rest.takeWhile fun c => 'a' ≤ c && c ≤ 'z'
      Reader.advance flags.length
      return flags
    match named with
    | "q" => return .constant (.text (plainText closing text))
    | "qq" => quoted false fuel text
    | "qx" => return .outputOf (← quoted false fuel text)
    | "qw" =>
      let words := (text.splitBy fun c d => isBlankChar c = isBlankChar d).filter fun w =>
        !w.any isBlankChar
      return .list (words.map fun w => .constant (.text w))
    | "m" =>
      if opening = '\'' then return .matching none false (.constant (.text text)) []
      else pattern fuel text
    | "qr" =>
      let e ← quoted true fuel text
      let flags ← flagsHere
      let opening := "(?^".toList ++ flags ++ [':']
      return .joined [.constant (.text opening), e, .constant (.text [')'])]
    | "s" =>
      let second ← secondDelimited opening
      let flags ← flagsHere
      let pattern ← quoted true fuel text
      let replacement ←
        if flags.contains 'e' then apart fuel second
        else if opening = '\'' then pure (.constant (.text second))
        else quoted false fuel second
      return .substitution none pattern replacement flags
    | _ =>
      let second ← secondDelimited opening
      return .transliteration none text second (← flagsHere)

/-- The arguments of a call: those in parentheses, or all that follow. -/
def arguments : Nat → Reader (List Expr)
  | 0 => Reader.fail
  | fuel + 1 => do
    if ← Reader.take "(" then enclosed fuel ")"
    else if startsOperand true (← Reader.skip) then
      match ← commas fuel with
      | .list items => return items
      | e => return [e]
    else return []

/-- The argument of a call that takes at most one. -/
def oneArgument : Nat → Reader (List Expr)
  | 0 => Reader.fail
  | fuel + 1 => do
    if ← Reader.take "(" then enclosed fuel ")"
    else if startsOperand false (← Reader.skip) || (← get).rest.head? = some '<' then
      let first ← operand fuel
      return [← chain fuel 7 first]
    else return []

/-- What is printed, behind the handle to which it goes. -/
def printing : Nat → Chars → Reader Expr
  | 0, _ => Reader.fail
  | fuel + 1, name => do
    let isOpen ← Reader.take "("
    let before ← get
    let text ← Reader.skip
    let handle? : Option Expr ←
      match text with
      | '\x7b' :: _ => do
        let (inside, _) ← delimited
        let inside := inside.filter fun c => !isBlankChar c && c ≠ '*'
        pure (some (if inside.head? = some '$' then .scalar (inside.drop 1)
          else .constant (.text inside)))
      | '$' :: c :: _ => do
        Reader.advance 1
        let name ← Reader.name
        let follows := (← get).rest
        let after ← Reader.skip
        let isHandle : Bool := startsName c && follows.head?.any isBlankChar &&
          (after.head?.any fun d => d = '"' || d = '\'' || d = '$' || d = '@' || startsName d) &&
          (operatorAt? after).isNone && startsOperand false after
        if isHandle then pure (some (.scalar name))
        else do
          set before
          pure none
      | text => do
        let name ← Reader.name
        let isUpper : Bool := name ≠ [] && text.head?.any startsName &&
          name.all fun c => ('A' ≤ c && c ≤ 'Z') || c = '_' || Text.isDigit c
        let after ← Reader.skip
        if isUpper && !([',', '(', '.'].any fun d => after.head? = some d) then
          pure (some (.constant (.text name)))
        else do
          set before
          pure none
    let rest ← if isOpen then enclosed fuel ")" else do
      if startsOperand true (← Reader.skip) then
        match ← commas fuel with
        | .list items => pure items
        | e => pure [e]
      else pure []
    return .call name (handle?.getD (.constant (.text "STDOUT".toList)) :: rest)

/-- A call that takes a block or an expression in front of its arguments. -/
def blockWord : Nat → Chars → Reader Expr
  | 0, _ => Reader.fail
  | fuel + 1, name => do
    let isOpen ← Reader.take "("
    let line := (← get).line
    let text ← Reader.skip
    let block ←
      if text.head? = some '\x7b' then do
        let block ← body fuel
        let _ ← Reader.take ","
        pure block
      else if name = "sort".toList then pure []
      else do
        let e ← assignment fuel
        Reader.expect ","
        pure [.expression line e]
    let rest ← if isOpen then enclosed fuel ")" else do
      match ← commas fuel with
      | .list items => pure items
      | e => pure [e]
    return .blockCall name block rest

/-- The statements in braces. -/
def body : Nat → Reader (List Statement)
  | 0 => Reader.fail
  | fuel + 1 => do
    Reader.expect "\x7b"
    let statements ← statementList fuel
    Reader.expect "\x7d"
    return statements

/-- Statements up to a closing brace or the end. -/
def statementList : Nat → Reader (List Statement)
  | 0 => Reader.fail
  | fuel + 1 => do
    if ← Reader.take ";" then statementList fuel
    else
      match ← Reader.skip with
      | [] | '\x7d' :: _ => return []
      | text =>
        if "__END__".toList.isPrefixOf text then
          modify fun s => { s with rest := [] }
          return []
        else
          let first ← statement fuel
          return first ++ (← statementList fuel)

/-- A condition in parentheses. -/
def condition : Nat → Reader Expr
  | 0 => Reader.fail
  | fuel + 1 => do
    Reader.expect "("
    if ← Reader.take ")" then return .constant (.whole 1)
    else
      let e ← expression fuel
      Reader.expect ")"
      return e

/-- The branches behind a condition. -/
def otherwise : Nat → Reader (List Statement)
  | 0 => Reader.fail
  | fuel + 1 => do
    if ← Reader.takeWord "elsif" then
      let c ← condition fuel
      let consequence ← body fuel
      return [.branch c consequence (← otherwise fuel)]
    else if ← Reader.takeWord "else" then body fuel
    else return []

/-- A statement, which may stand for none or several. -/
def statement : Nat → Reader (List Statement)
  | 0 => Reader.fail
  | fuel + 1 => do
    let text ← Reader.skip
    let start ← get
    let named ← if text.head?.any startsName then Reader.name else pure []
    let after ← Reader.skip
    match String.ofList named with
    | "if" =>
      let c ← condition fuel
      let consequence ← body fuel
      return [.branch c consequence (← otherwise fuel)]
    | "unless" =>
      let c ← condition fuel
      let consequence ← body fuel
      return [.branch (.unary ['!'] c) consequence (← otherwise fuel)]
    | "while" | "until" =>
      let c ← condition fuel
      let statements ← body fuel
      let after ← if ← Reader.takeWord "continue" then body fuel else pure []
      return [.loop (named = "until".toList) c statements after]
    | "for" | "foreach" => iteration fuel
    | "sub" =>
      if after.head?.any startsName then
        let name ← Reader.name
        return [.define name (← body fuel)]
      else
        set start
        simpleStatement fuel
    | "BEGIN" | "END" =>
      if after.head? = some '\x7b' then
        let statements ← body fuel
        return [if named = "END".toList then .last statements else .first statements]
      else
        set start
        simpleStatement fuel
    | "use" | "no" | "package" =>
      let skipped := (← get).rest.takeWhile fun c => c ≠ ';' && c ≠ '\x7d'
      Reader.advance skipped.length
      let used := skipped.dropWhile isBlankChar
      if ["feature", "v5", "5.01", "5.02", "5.03"].any fun t => t.toList.isPrefixOf used then
        modify fun s => { s with knowsSay := true }
      modify fun s => { s with used := libraryWords used ++ s.used }
      return []
    | _ =>
      if named = [] && text.head? = some '\x7b' then
        set start
        return [.block (← body fuel)]
      else if named ≠ [] && after.head? = some ':' && (after.drop 1).head? ≠ some ':' &&
          named.all fun c => ('A' ≤ c && c ≤ 'Z') || c = '_' then
        Reader.advance 1
        statement fuel
      else
        set start
        simpleStatement fuel

/-- A loop over a list, or one with three expressions. -/
def iteration : Nat → Reader (List Statement)
  | 0 => Reader.fail
  | fuel + 1 => do
    let isMine ← if ← Reader.takeWord "my" then pure true else Reader.takeWord "our"
    if ← Reader.take "$" then
      let name ← Reader.name
      Reader.expect "("
      let items ← enclosed fuel ")"
      return [.forEach name isMine (.list items) (← body fuel)]
    else
      Reader.expect "("
      let nothing : Expr := .constant .undefined
      let first ← if ← Reader.take ";" then pure none else do
        if ← Reader.take ")" then pure (some (.list []))
        else pure (some (← expression fuel))
      match first with
      | some (.list []) => return [.forEach ['_'] false (.list []) (← body fuel)]
      | first =>
        let isCounted ← if first.isNone then pure true else Reader.take ";"
        if !isCounted then
          Reader.expect ")"
          return [.forEach ['_'] false (first.getD nothing) (← body fuel)]
        else
          let goal ← if ← Reader.take ";" then pure (.constant (.whole 1)) else do
            let e ← expression fuel
            Reader.expect ";"
            pure e
          let next ← if ← Reader.take ")" then pure nothing else do
            let e ← expression fuel
            Reader.expect ")"
            pure e
          return [.counted (first.getD nothing) goal next (← body fuel)]

/-- An expression as a statement, with what modifies it. -/
def simpleStatement : Nat → Reader (List Statement)
  | 0 => Reader.fail
  | fuel + 1 => do
    let line := (← get).line
    let e ← expression fuel
    let itself : List Statement := [.expression line e]
    let isRunFirst : Bool := match e with
      | .block _ => true
      | _ => false
    let looped (isUntil : Bool) (c : Expr) : List Statement :=
      (if isRunFirst then itself else []) ++ [.loop isUntil c itself []]
    let result : List Statement ←
      if ← Reader.takeWord "if" then pure [.branch (← expression fuel) itself []]
      else if ← Reader.takeWord "unless" then
        pure [.branch (.unary ['!'] (← expression fuel)) itself []]
      else if ← Reader.takeWord "while" then pure (looped false (← expression fuel))
      else if ← Reader.takeWord "until" then pure (looped true (← expression fuel))
      else if (← Reader.takeWord "foreach") then
        pure [.forEach ['_'] false (← expression fuel) itself]
      else if (← Reader.takeWord "for") then
        pure [.forEach ['_'] false (← expression fuel) itself]
      else pure itself
    match ← Reader.skip with
    | [] | '\x7d' :: _ => return result
    | ';' :: _ =>
      Reader.advance 1
      return result
    | _ => Reader.fail

end

/-- The statements of a script, which may know the word `say`. -/
def parse (knowsSay : Bool) (text : Chars) : Except Malformed (List Statement) :=
  match (statementList (6 * text.length + 64)).run ⟨text, 1, knowsSay, []⟩ with
  | .error e => .error e
  | .ok (statements, s) =>
    if s.rest = [] then .ok statements else .error ⟨"syntax error".toList, s.line⟩

end Sigil

end Shell

end TcpJournal
