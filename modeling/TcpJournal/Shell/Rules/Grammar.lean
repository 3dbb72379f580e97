import TcpJournal.Shell.Rules.Role
import TcpJournal.Shell.Rules.Token

/-!
# The grammar of scripts

Expressions are read by rank: a choice stands below the logical operators,
those below membership, matching, comparison, the joining of texts and the
arithmetic operators.  A sign in front of a value binds closer than a product
and looser than a power.
-/

namespace TcpJournal

namespace Shell

namespace Rules

/-- What is left of a script, and where the reading stands. -/
structure ReadingState where
  tokens : List PlacedToken
  roles : Roles
  inside : Option Chars
  isInRule : Bool
  loops : Nat

/-- Reading from a list of tokens. -/
abbrev Reading := StateT ReadingState (Except ScriptError)

namespace Reading

/-- The next token. -/
def peek? : Reading (Option Token) := do
  return (← get).tokens.head?.map PlacedToken.token

/-- The next token but one. -/
def second? : Reading (Option Token) := do
  return ((← get).tokens.drop 1).head?.map PlacedToken.token

/-- Pass over a token. -/
def skip : Reading Unit := modify fun s => { s with tokens := s.tokens.drop 1 }

/-- Give up for a reason. -/
def fail {α : Type} (reason : Chars) : Reading α := do
  throw ⟨((← get).tokens.head?.map PlacedToken.line).getD 0, reason⟩

/-- Give up at the next token. -/
def refuse {α : Type} : Reading α := do
  match (← get).tokens with
  | [] => throw ⟨0, "syntax error at or near end of file".toList⟩
  | ⟨token, line⟩ :: _ => throw ⟨line, "syntax error at or near ".toList ++ token.shown⟩

/-- The next token is a sign. -/
def seesSign (text : String) : Reading Bool := do
  return (← peek?) = some (.sign text)

/-- The next token is a keyword. -/
def seesKeyword (word : String) : Reading Bool := do
  return (← peek?) = some (.keyword word)

/-- Pass over a sign, if it is the next token. -/
def takes (text : String) : Reading Bool := do
  if ← seesSign text then
    skip
    return true
  else return false

/-- Pass over a sign that has to follow. -/
def demand (text : String) : Reading Unit := do
  if ← takes text then return () else refuse

/-- Pass over the ends of lines. -/
def skipLines : Reading Unit :=
  modify fun s => { s with tokens := s.tokens.dropWhile fun t => t.token = .newline }

/-- Pass over the ends of lines and statements. -/
def skipEnds : Reading Unit :=
  modify fun s =>
    { s with tokens := s.tokens.dropWhile fun t => t.token = .newline || t.token = .sign ";" }

/-- A name that has to follow. -/
def demandName : Reading Chars := do
  match ← peek? with
  | some (.name n) | some (.callName n) =>
    skip
    return n
  | _ => refuse

/-- The name in its scope. -/
def scopedName (n : Chars) : Reading ScopedName := do
  let s ← get
  return s.roles.nameIn s.inside n

/-- Use a name in a role. -/
def useName (n : Chars) (role : Role) : Reading Unit := do
  match (← get).roles.use (← scopedName n) role with
  | .ok roles => modify fun s => { s with roles }
  | .error reason => fail reason

/-- The name of an array that has to follow. -/
def demandArray : Reading Chars := do
  let n ← demandName
  useName n .array
  return n

/-- The name is that of a function that has been defined. -/
def isFunction (n : Chars) : Reading Bool := do
  return ((← get).roles.parameters.lookup n).isSome && (← scopedName n).scope.isNone

/-- Read the body of a loop. -/
def insideLoop {α : Type} (body : Reading α) : Reading α := do
  modify fun s => { s with loops := s.loops + 1 }
  let result ← body
  modify fun s => { s with loops := s.loops - 1 }
  return result

end Reading

open Reading

/-- A pattern that is written as a text is the expression that it spells. -/
def fixedPattern (e : Expr) : Reading Expr := do
  let compiled (text : Chars) : Reading Expr := do
    match Regex.parse .pattern text with
    | .ok r => return .regex r
    | .error _ => fail "regular expression compile failed".toList
  match e with
  | .text text | .grouped [.text text] => compiled text
  | e => return e

/-- The least and the greatest number of arguments of the functions that every
script has. -/
def argumentCounts : List (String × Nat × Nat) :=
  [("length", 0, 1), ("substr", 2, 3), ("index", 2, 2), ("split", 2, 3), ("sub", 2, 3),
   ("gsub", 2, 3), ("match", 2, 2), ("sprintf", 1, 255), ("sin", 1, 1), ("cos", 1, 1),
   ("exp", 1, 1), ("log", 1, 1), ("sqrt", 1, 1), ("int", 1, 1), ("atan2", 2, 2),
   ("tolower", 1, 1), ("toupper", 1, 1), ("system", 1, 1), ("close", 1, 1), ("fflush", 0, 1),
   ("rand", 0, 0), ("srand", 0, 1), ("systime", 0, 0), ("strftime", 0, 3), ("mktime", 1, 2)]

/-- A call of a function that every script has. -/
def builtinCall (function : String) (arguments : List Expr) : Reading Expr := do
  let isWrong : Bool := match argumentCounts.lookup function with
    | some (least, most) => arguments.length < least || most < arguments.length
    | none => false
  if isWrong then
    fail ("wrong number of arguments in call to ".toList ++ function.toList)
  match function, arguments with
  | "match", [e, pattern] => return .builtin function [e, ← fixedPattern pattern]
  | "sub", pattern :: rest | "gsub", pattern :: rest =>
    if (rest[1]?).any fun e => !e.isPlace then refuse
    return .builtin function ((← fixedPattern pattern) :: rest)
  | _, _ => return .builtin function arguments

/-- The operator of a sign among some. -/
def operatorOf? (signs : List (String × Operator)) : Option Token → Option Operator
  | some (.sign text) => signs.lookup text
  | _ => none

/-- Signs that assign. -/
def assigningSigns : List (String × Option Operator) :=
  [("=", none), ("+=", some .add), ("-=", some .sub), ("*=", some .mul), ("/=", some .div),
   ("%=", some .mod), ("^=", some .pow)]

/-- Signs that compare. -/
def comparingSigns : List (String × Comparison) :=
  [("<", .less), ("<=", .atMost), ("==", .equal), ("!=", .different), (">", .greater),
   (">=", .atLeast)]

/-- A token with which another value to be joined starts. -/
def startsValue : Option Token → Bool
  | some token =>
    match token with
    | .number _ | .text _ | .regex _ | .name _ | .callName _ | .builtin _ => true
    | .sign text => ["$", "!", "(", "-", "+", "++", "--"].contains text
    | .keyword _ | .newline => false
  | none => false

/-- What stands around an expression: in the arguments of a print, a greater
sign directs the output; behind a dollar sign and behind the word that reads a
record, a value is not counted; and only a value that no arithmetic operator
stands in front of is assigned to. -/
structure ExprPlace where
  inPrint : Bool
  isBare : Bool
  assigns : Bool
  deriving DecidableEq, Repr

namespace ExprPlace

/-- The place of an expression by itself. -/
def free : ExprPlace := ⟨false, false, true⟩

/-- The place of an operand of arithmetic. -/
def operand (p : ExprPlace) : ExprPlace := { p with assigns := false }

end ExprPlace

mutual

/-- An expression. -/
def expression : Nat → ExprPlace → Reading Expr
  | 0, _ => refuse
  | fuel + 1, p => do
    let condition ← disjunction fuel p
    if ← takes "?" then
      skipLines
      let consequence ← expression fuel p
      skipLines
      demand ":"
      skipLines
      let alternative ← expression fuel p
      return .choice condition consequence alternative
    else return condition

/-- Alternatives. -/
def disjunction : Nat → ExprPlace → Reading Expr
  | 0, _ => refuse
  | fuel + 1, p => do
    let left ← conjunction fuel p
    if ← takes "||" then
      skipLines
      return .either left (← disjunction fuel p)
    else return left

/-- Conditions that hold together. -/
def conjunction : Nat → ExprPlace → Reading Expr
  | 0, _ => refuse
  | fuel + 1, p => do
    let left ← membership fuel p
    if ← takes "&&" then
      skipLines
      return .both left (← conjunction fuel p)
    else return left

/-- Whether an array has an element. -/
def membership : Nat → ExprPlace → Reading Expr
  | 0, _ => refuse
  | fuel + 1, p => do memberships fuel p (← matching fuel p)

/-- Memberships behind a value, and what compares them. -/
def memberships : Nat → ExprPlace → Expr → Reading Expr
  | 0, _, _ => refuse
  | fuel + 1, p, e => do
    if ← seesKeyword "in" then
      skip
      let subscripts := match e with
        | .grouped items => items
        | e => [e]
      let compared ← comparisons fuel p (.isIn subscripts (← demandArray))
      memberships fuel p (← matchings fuel p compared)
    else return e

/-- Whether texts match patterns. -/
def matching : Nat → ExprPlace → Reading Expr
  | 0, _ => refuse
  | fuel + 1, p => do matchings fuel p (← comparison fuel p)

/-- Matches behind a value. -/
def matchings : Nat → ExprPlace → Expr → Reading Expr
  | 0, _, _ => refuse
  | fuel + 1, p, e => do
    if ← takes "~" then
      matchings fuel p (.matching false e (← fixedPattern (← comparison fuel p)))
    else if ← takes "!~" then
      matchings fuel p (.matching true e (← fixedPattern (← comparison fuel p)))
    else return e

/-- A comparison. -/
def comparison : Nat → ExprPlace → Reading Expr
  | 0, _ => refuse
  | fuel + 1, p => do comparisons fuel p (← joined fuel p)

/-- Comparisons behind a value. -/
def comparisons : Nat → ExprPlace → Expr → Reading Expr
  | 0, _, _ => refuse
  | fuel + 1, p, e => do
    match ← peek? with
    | some (.sign text) =>
      if p.inPrint && text = ">=" then fail "syntax error at or near =".toList
      match if p.inPrint && text = ">" then none else comparingSigns.lookup text with
      | some c =>
        skip
        comparisons fuel p (.compare c e (← joined fuel p))
      | none => return e
    | _ => return e

/-- Values joined to a text. -/
def joined : Nat → ExprPlace → Reading Expr
  | 0, _ => refuse
  | fuel + 1, p => do joinedTo fuel p (← sum fuel { p with assigns := true })

/-- Values joined to the one before. -/
def joinedTo : Nat → ExprPlace → Expr → Reading Expr
  | 0, _, _ => refuse
  | fuel + 1, p, e => do
    if startsValue (← peek?) then joinedTo fuel p (.joined e (← sum fuel p.operand))
    else return e

/-- A sum. -/
def sum : Nat → ExprPlace → Reading Expr
  | 0, _ => refuse
  | fuel + 1, p => do summands fuel p (← product fuel p)

/-- Summands behind a value. -/
def summands : Nat → ExprPlace → Expr → Reading Expr
  | 0, _, _ => refuse
  | fuel + 1, p, e => do
    match operatorOf? [("+", .add), ("-", .sub)] (← peek?) with
    | some operator =>
      skip
      summands fuel p (.arithmetic operator e (← product fuel p.operand))
    | none => return e

/-- A product. -/
def product : Nat → ExprPlace → Reading Expr
  | 0, _ => refuse
  | fuel + 1, p => do factors fuel p (← signed fuel p)

/-- Factors behind a value. -/
def factors : Nat → ExprPlace → Expr → Reading Expr
  | 0, _, _ => refuse
  | fuel + 1, p, e => do
    match operatorOf? [("*", .mul), ("/", .div), ("%", .mod)] (← peek?) with
    | some operator =>
      skip
      factors fuel p (.arithmetic operator e (← signed fuel p.operand))
    | none => return e

/-- A value with a sign in front. -/
def signed : Nat → ExprPlace → Reading Expr
  | 0, _ => refuse
  | fuel + 1, p => do
    if ← takes "!" then return .negated (← signed fuel p.operand)
    else if ← takes "-" then return .negative (← signed fuel p.operand)
    else if ← takes "+" then return .positive (← signed fuel p.operand)
    else
      let e ← power fuel p
      if p.inPrint then return e else fromCommand fuel e

/-- Records read from a command. -/
def fromCommand : Nat → Expr → Reading Expr
  | 0, _ => refuse
  | fuel + 1, e => do
    if (← seesSign "|") && (← second?) = some (.keyword "getline") then
      skip
      skip
      let target ← optionalPlace fuel
      fromCommand fuel (.readRecord .command (some e) target)
    else return e

/-- A power. -/
def power : Nat → ExprPlace → Reading Expr
  | 0, _ => refuse
  | fuel + 1, p => do
    let base ← counted fuel p
    if ← takes "^" then
      return .arithmetic .pow base (← exponent fuel p)
    else return base

/-- The exponent of a power. -/
def exponent : Nat → ExprPlace → Reading Expr
  | 0, _ => refuse
  | fuel + 1, p => do
    if ← takes "-" then return .negative (← exponent fuel p)
    else if ← takes "+" then return .positive (← exponent fuel p)
    else if ← takes "!" then return .negated (← exponent fuel p)
    else power fuel p.operand

/-- A value that is counted up or down, or assigned. -/
def counted : Nat → ExprPlace → Reading Expr
  | 0, _ => refuse
  | fuel + 1, p => do
    if ← takes "++" then return .step (← place fuel) true false
    else if ← takes "--" then return .step (← place fuel) false false
    else
      let e ← simple fuel p
      let e := match e with
        | .grouped [.field i] => .field i
        | e => e
      if p.isBare || !e.isPlace then return e
      else if ← takes "++" then return .step e true true
      else if ← takes "--" then return .step e false true
      else
        match ← peek? with
        | some (.sign text) =>
          match assigningSigns.lookup text with
          | some operator =>
            if !p.assigns then refuse
            skip
            skipLines
            return .assign e operator (← expression fuel { p with isBare := false })
          | none => return e
        | _ => return e

/-- A place for a value. -/
def place : Nat → Reading Expr
  | 0 => refuse
  | fuel + 1 => do
    match ← simple fuel ⟨false, true, false⟩ with
    | .grouped [.field i] => return .field i
    | e => if e.isPlace then return e else refuse

/-- A place for a value, if one follows. -/
def optionalPlace : Nat → Reading (Option Expr)
  | 0 => refuse
  | fuel + 1 => do
    match ← peek? with
    | some (.name _) | some (.sign "$") => return some (← place fuel)
    | _ => return none

/-- Expressions with commas between them up to a closing sign. -/
def arguments : Nat → ExprPlace → String → Reading (List Expr)
  | 0, _, _ => refuse
  | fuel + 1, p, close => do
    skipLines
    if ← takes close then return []
    else
      let first ← expression fuel p
      skipLines
      if ← takes close then return [first]
      else
        demand ","
        skipLines
        if ← seesSign close then refuse else return first :: (← arguments fuel p close)

/-- The subscripts of an element. -/
def subscripts : Nat → ExprPlace → Reading (List Expr)
  | 0, _ => refuse
  | fuel + 1, p => do
    let items ← arguments fuel { ExprPlace.free with inPrint := p.inPrint } "]"
    if items.isEmpty then refuse else return items

/-- The arguments of a function of the script; a name by itself is used as the
function uses it. -/
def handedOn : Nat → Reading (List (Expr × Option ScopedName))
  | 0 => refuse
  | fuel + 1 => do
    skipLines
    if ← takes ")" then return []
    else
      let isAlone : Bool := match ← second? with
        | some (.sign sign) => sign = "," || sign = ")"
        | _ => false
      let first ← match ← peek? with
        | some (.name n) =>
          if isAlone && !(← isFunction n) then
            skip
            pure (.name n, some (← scopedName n))
          else pure (← expression fuel .free, none)
        | _ => pure (← expression fuel .free, none)
      skipLines
      if ← takes ")" then return [first]
      else
        demand ","
        skipLines
        if ← seesSign ")" then refuse else return first :: (← handedOn fuel)

/-- A call of a function of the script behind its name. -/
def callOf : Nat → Chars → Reading Expr
  | 0, _ => refuse
  | fuel + 1, n => do
    demand "("
    let given ← handedOn fuel
    modify fun s =>
      { s with roles := { s.roles with calls := ⟨n, given.map Prod.snd⟩ :: s.roles.calls } }
    return .call n (given.map Prod.fst)

/-- What a name by itself stands for: an element, a call of a function that has been
defined, or a variable. -/
def named : Nat → ExprPlace → Chars → Reading Expr
  | 0, _, _ => refuse
  | fuel + 1, p, n => do
    if ← isFunction n then callOf fuel n
    else if ← takes "[" then
      useName n .array
      return .element n (← subscripts fuel p)
    else
      useName n .value
      return .name n

/-- A call of a function that every script has, behind its name. -/
def builtinNamed : Nat → String → Reading Expr
  | 0, _ => refuse
  | fuel + 1, word => do
    demand "("
    match word, ← peek?, ← second? with
    | "length", some (.name n), some (.sign ")") =>
      if ← isFunction n then refuse
      skip
      skip
      return .builtin word [.name n]
    | "split", _, _ =>
      skipLines
      let e ← expression fuel .free
      skipLines
      demand ","
      skipLines
      let array ← demandArray
      skipLines
      if ← takes ")" then return .builtin word [e, .name array]
      else
        demand ","
        match ← arguments fuel .free ")" with
        | [separator] => return .builtin word [e, .name array, separator]
        | _ => refuse
    | _, _, _ => builtinCall word (← arguments fuel .free ")")

/-- A value that needs no brackets. -/
def simple : Nat → ExprPlace → Reading Expr
  | 0, _ => refuse
  | fuel + 1, p => do
    match ← peek? with
    | some (.number x) =>
      skip
      return .number x
    | some (.text t) =>
      skip
      return .text t
    | some (.regex r) =>
      skip
      return .regex r
    | some (.name n) =>
      skip
      named fuel p n
    | some (.callName n) =>
      skip
      let isCall : Bool := !(← get).roles.isUsed (← scopedName n)
      if isCall then callOf fuel n else named fuel p n
    | some (.builtin word) =>
      skip
      if ← seesSign "(" then builtinNamed fuel word
      else if word = "length" then return .builtin word []
      else refuse
    | some (.keyword "getline") =>
      skip
      let target ← optionalPlace fuel
      if ← takes "<" then
        return .readRecord .file (some (← counted fuel { p with isBare := true })) target
      else return .readRecord .main none target
    | some (.sign "$") =>
      skip
      if ← takes "++" then return .field (.step (← place fuel) true false)
      else if ← takes "--" then return .field (.step (← place fuel) false false)
      else if ← takes "-" then
        return .field (.negative (← simple fuel { p with isBare := true }))
      else return .field (← simple fuel { p with isBare := true })
    | some (.sign "(") =>
      skip
      let items ← arguments fuel .free ")"
      if items.length = 1 || (items.length > 1 && (← seesKeyword "in")) then
        return .grouped items
      else refuse
    | _ => refuse

end

/-- The operand of a redirected output. -/
def outputKind? : Option Token → Option OutputKind
  | some (.sign ">") => some .file
  | some (.sign ">>") => some .appended
  | some (.sign "|") => some .command
  | _ => none

/-- The next token ends a simple statement. -/
def seesEnd : Reading Bool := do
  match ← peek? with
  | none | some .newline | some (.sign ";") | some (.sign "\x7d") => return true
  | some _ => return false

/-- The arguments of a print. -/
def printed : Nat → Reading (List Expr)
  | 0 => refuse
  | fuel + 1 => do
    let token ← peek?
    if (← seesEnd) || (outputKind? token).isSome then return []
    else
      let first ← expression fuel ⟨true, false, true⟩
      if ← takes "," then
        skipLines
        return first :: (← printed fuel)
      else return [first]

/-- The arguments of a print that stand in brackets as a whole. -/
def printedTogether? (fuel : Nat) : Reading (Option (List Expr)) := do
  let before ← get
  if ← takes "(" then
    let items ← arguments fuel .free ")"
    if (← seesEnd) || (outputKind? (← peek?)).isSome then return some items
    else
      set before
      return none
  else return none

/-- A print. -/
def printStatement (fuel : Nat) (isFormatted : Bool) : Reading Statement := do
  let items ← match ← printedTogether? fuel with
    | some items => pure items
    | none => printed fuel
  if isFormatted && items.isEmpty then fail "no arguments in call to printf".toList
  match outputKind? (← peek?) with
  | none => return .print isFormatted items .standard none
  | some kind =>
    skip
    return .print isFormatted items kind (some (← expression fuel .free))

/-- The value behind a keyword, if there is one. -/
def optionalValue (fuel : Nat) : Reading (Option Expr) := do
  if ← seesEnd then return none else return some (← expression fuel .free)

/-- A statement without parts that are statements. -/
def simpleStatement (fuel : Nat) : Reading Statement := do
  match ← peek? with
  | some (.keyword "print") =>
    skip
    printStatement fuel false
  | some (.keyword "printf") =>
    skip
    printStatement fuel true
  | some (.keyword "break") =>
    if (← get).loops = 0 then fail "break statement outside of loop".toList
    skip
    return .leaveLoop
  | some (.keyword "continue") =>
    if (← get).loops = 0 then fail "continue statement outside of loop".toList
    skip
    return .nextRound
  | some (.keyword "next") =>
    if !(← get).isInRule then fail "improper use of next".toList
    skip
    return .nextRecord
  | some (.keyword "nextfile") =>
    if !(← get).isInRule then fail "improper use of nextfile".toList
    skip
    return .nextFile
  | some (.keyword "exit") =>
    skip
    return .exit (← optionalValue fuel)
  | some (.keyword "return") =>
    if (← get).inside.isNone then fail "return outside function body".toList
    skip
    return .answer (← optionalValue fuel)
  | some (.keyword "delete") =>
    skip
    let array ← demandArray
    if ← takes "[" then return .delete array (← subscripts fuel .free) else return .delete array []
  | _ => return .evaluate (← expression fuel .free)

/-- The end of a simple statement. -/
def endStatement : Reading Unit := do
  match ← peek? with
  | some (.sign ";") | some .newline => skip
  | none | some (.sign "\x7d") => return ()
  | some _ => refuse

mutual

/-- A statement. -/
def statement : Nat → Reading Statement
  | 0 => refuse
  | fuel + 1 => do
    match ← peek? with
    | some (.sign "\x7b") =>
      skip
      return .sequence (← statements fuel)
    | some (.sign ";") =>
      skip
      return .nothing
    | some (.keyword "if") =>
      skip
      demand "("
      let condition ← expression fuel .free
      demand ")"
      skipLines
      let consequence ← statement fuel
      let before ← get
      skipLines
      if ← seesKeyword "else" then
        skip
        skipLines
        return .branch condition consequence (← statement fuel)
      else
        set before
        return .branch condition consequence .nothing
    | some (.keyword "while") =>
      skip
      demand "("
      let condition ← expression fuel .free
      demand ")"
      if ← takes ";" then return .loop condition .nothing
      else
        skipLines
        return .loop condition (← insideLoop (statement fuel))
    | some (.keyword "do") =>
      skip
      skipLines
      let body ← insideLoop (statement fuel)
      skipLines
      if ← seesKeyword "while" then
        skip
        demand "("
        let condition ← expression fuel .free
        demand ")"
        endStatement
        return .loopOnce body condition
      else refuse
    | some (.keyword "for") =>
      skip
      demand "("
      forStatement fuel
    | _ =>
      let s ← simpleStatement fuel
      endStatement
      return s

/-- What follows the opening bracket of a counted loop or of one over the
subscripts of an array. -/
def forStatement : Nat → Reading Statement
  | 0 => refuse
  | fuel + 1 => do
    match (← get).tokens with
    | ⟨.name n, _⟩ :: ⟨.keyword "in", _⟩ :: ⟨.name array, _⟩ :: ⟨.sign ")", _⟩ :: rest =>
      modify fun s => { s with tokens := rest }
      useName n .value
      useName array .array
      skipLines
      return .forEach n array (← insideLoop (statement fuel))
    | _ =>
      let first ← if ← seesSign ";" then pure .nothing else simpleStatement fuel
      demand ";"
      skipLines
      let condition ← if ← seesSign ";" then pure none
        else do pure (some (← expression fuel .free))
      demand ";"
      skipLines
      let after ← if ← seesSign ")" then pure .nothing else simpleStatement fuel
      demand ")"
      if ← takes ";" then return .count first condition after .nothing
      else
        skipLines
        return .count first condition after (← insideLoop (statement fuel))

/-- Statements up to the closing brace. -/
def statements : Nat → Reading (List Statement)
  | 0 => refuse
  | fuel + 1 => do
    skipEnds
    match ← peek? with
    | none => throw ⟨0, "missing \x7d near end of file".toList⟩
    | some (.sign "\x7d") =>
      skip
      return []
    | some _ =>
      let first ← statement fuel
      return first :: (← statements fuel)

end

/-- The names of parameters up to the closing bracket. -/
def parameters : Nat → Reading (List Chars)
  | 0 => refuse
  | fuel + 1 => do
    skipLines
    if ← takes ")" then return []
    else
      let first ← demandName
      skipLines
      if ← takes ")" then return [first]
      else
        demand ","
        return first :: (← parameters fuel)

/-- The action of a rule, if one follows, and the end of a statement behind it. -/
def action (fuel : Nat) : Reading (Option Statement) := do
  if ← takes "\x7b" then
    let body ← statements fuel
    let _ ← takes ";"
    return some (.sequence body)
  else return none

/-- The action of a rule for records. -/
def recordAction (fuel : Nat) : Reading (Option Statement) := do
  modify fun s => { s with isInRule := true }
  let result ← action fuel
  modify fun s => { s with isInRule := false }
  if result.isNone then endStatement
  return result

/-- A rule. -/
def rule (fuel : Nat) : Reading Rule := do
  match ← peek? with
  | some (.keyword "BEGIN") =>
    skip
    if ← seesSign "\x7b" then return ⟨.atStart, ← action fuel⟩ else refuse
  | some (.keyword "END") =>
    skip
    if ← seesSign "\x7b" then return ⟨.atEnd, ← action fuel⟩ else refuse
  | some (.sign "\x7b") => return ⟨.always, ← recordAction fuel⟩
  | _ =>
    let first ← expression fuel .free
    if ← takes "," then
      skipLines
      let last ← expression fuel .free
      return ⟨.span first last, ← recordAction fuel⟩
    else return ⟨.holds first, ← recordAction fuel⟩

/-- A function behind its keyword. -/
def functionDefinition (fuel : Nat) : Reading Function := do
  let name ← demandName
  let roles := (← get).roles
  if (roles.parameters.lookup name).isSome then fail ("redefinition of ".toList ++ name)
  if let some role := roles.known.lookup ⟨none, name⟩ then
    fail ("illegal reference to ".toList ++ role.shown ⟨none, name⟩ ++ ' ' :: name)
  demand "("
  let names ← parameters fuel
  if names.contains name then fail "function parameter cannot be the function".toList
  if !decide names.Nodup then fail "a name is duplicated in argument list".toList
  modify fun s =>
    { s with
      inside := some name
      roles := { roles with parameters := (name, names) :: roles.parameters } }
  skipLines
  demand "\x7b"
  let body ← statements fuel
  modify fun s => { s with inside := none }
  let _ ← takes ";"
  return ⟨name, names, .sequence body⟩

/-- The rules and functions of a script. -/
def items : Nat → Script → Reading Script
  | 0, _ => refuse
  | fuel + 1, script => do
    skipLines
    match ← peek? with
    | none => return script
    | some (.keyword "function") =>
      skip
      let f ← functionDefinition fuel
      items fuel { script with functions := script.functions ++ [f] }
    | some _ =>
      let r ← rule fuel
      items fuel { script with rules := script.rules ++ [r] }

/-- The script that a text spells, given the variables that are set in front of it. -/
def Script.parse (given : List Chars) (text : Chars) : Except ScriptError Script := do
  let tokens ← Scan.scan (text.length + 1) 1 false text
  let start : ReadingState := ⟨tokens, .start given, none, false, 0⟩
  let (script, after) ← (items (32 * tokens.length + 64) ⟨[], [], []⟩).run start
  match after.roles.settled with
  | .error reason => throw ⟨0, reason⟩
  | .ok roles => return { script with reserved := roles.reserved }

end Rules

end Shell

end TcpJournal
