import TcpJournal.Shell.Assignment
import TcpJournal.Shell.Token

/-!
# The grammar of commands

The reader of commands takes one complete line of commands at a time, as a
script is run: a line that cannot be read does not keep the lines before it
from running.  Every reader takes a bound for its depth, which the length of
the text provides.
-/

namespace TcpJournal

namespace Shell

/-- How much of a list of commands is read: one line, the commands up to a
closing token, or those commands if there are any. -/
inductive ListKind where
  | line
  | enclosed
  | optional
  deriving DecidableEq, Repr

/-- The text by which a message names a token. -/
def Token.shown : Token → Chars
  | .word _ => "word unexpected".toList
  | .reserved name => '"' :: name ++ "\" unexpected".toList
  | .operator symbol => '"' :: symbol ++ "\" unexpected".toList
  | .redirection _ _ => "redirection unexpected".toList
  | .lineEnd => "newline unexpected".toList
  | .textEnd => "end of file unexpected".toList

/-- A token does not belong where it stands. -/
def unexpected {α : Type} (token : Token) (expected : Option String) : Reader α := do
  let hint :=
    match expected with
    | some name => " (expecting \"".toList ++ name.toList ++ "\")".toList
    | none => []
  throw ⟨"Syntax error: ".toList ++ token.shown ++ hint, (← get).line⟩

/-- The operators that end a clause. -/
def clauseEnds : List Chars := [[';', ';'], [';', '&'], [';', ';', '&']]

/-- The token closes a list of commands. -/
def Token.closes : Token → Bool
  | .textEnd => true
  | .operator symbol => symbol = [')'] || clauseEnds.contains symbol
  | .reserved name =>
    ["do", "done", "elif", "else", "esac", "fi", "then", "\x7d"].any fun w => w.toList = name
  | _ => false

/-- The token is an operator. -/
def Token.isOperator (token : Token) (symbol : String) : Bool :=
  match token with
  | .operator s => s = symbol.toList
  | _ => false

/-- The token is a reserved word. -/
def Token.isReserved (token : Token) (name : String) : Bool :=
  match token with
  | .reserved s => s = name.toList
  | _ => false

/-- The token ends a line. -/
def Token.isLineEnd : Token → Bool
  | .lineEnd => true
  | _ => false

/-- The word that a token is, whether it is reserved or not. -/
def Token.asWord? : Token → Option Word
  | .word parts => some parts
  | .reserved name => some [.text name false]
  | _ => none

/-- Nothing is looked for. -/
def anything : Expectation := ⟨false, false, false⟩

/-- A command may start. -/
def commandStart : Expectation := ⟨false, true, true⟩

/-- A command may start behind line ends. -/
def commandAfterLines : Expectation := ⟨true, true, true⟩

/-- A clause may start behind line ends. -/
def clauseStart : Expectation := ⟨true, true, false⟩

/-- The descriptor and target of a redirection whose symbol has been read. -/
def redirection (commands : Reader Command) (fuel : Nat) (symbol : Chars) (descriptor : Nat) :
    Reader Redirection := do
  if symbol = ['<', '<'] || symbol = ['<', '<', '-'] then
    skipBlanks (← Reader.budget)
    match ← Reader.peek? with
    | some c =>
      if endsWord c then unexpected (← nextToken commands anything fuel) none
      else pure ()
    | none => unexpected .textEnd none
    let (delimiter, isLiteral) ← delimiterText (← Reader.budget) [] false
    let number := (← get).nextDocument
    modify fun s =>
      { s with
        nextDocument := number + 1
        awaited := s.awaited ++ [⟨number, delimiter, isLiteral, symbol.length = 3⟩] }
    return .document descriptor number
  else
    let token ← nextToken commands anything fuel
    match token.asWord? with
    | none => unexpected token none
    | some target =>
      if symbol = ['<'] then return .read descriptor target
      else if symbol = "<<<".toList then return .text descriptor target
      else if symbol = "&>".toList then return .writeBoth false target
      else if symbol = "&>>".toList then return .writeBoth true target
      else if symbol = ['>', '>'] then return .append descriptor target
      else if symbol = ['<', '>'] then return .readWrite descriptor target
      else if symbol = ['>'] then return .write descriptor false target
      else if symbol = ['>', '|'] then return .write descriptor true target
      else return .duplicate descriptor target

/-- The redirections that follow a command. -/
def redirections (commands : Reader Command) : Nat → Reader (List Redirection)
  | 0 => return []
  | fuel + 1 => do
    let token ← nextToken commands commandStart fuel
    match token with
    | .redirection symbol descriptor =>
      let first ← redirection commands fuel symbol descriptor
      return first :: (← redirections commands fuel)
    | token =>
      putBack token
      return []

/-- The words of a list up to another token. -/
def wordList (commands : Reader Command) : Nat → Reader (List Word × Token)
  | 0 => return ([], .textEnd)
  | fuel + 1 => do
    let token ← nextToken commands anything fuel
    match token with
    | .word parts =>
      let (words, stop) ← wordList commands fuel
      return (parts :: words, stop)
    | token => return ([], token)

/-- The patterns of a clause and the token behind them. -/
def patternList (commands : Reader Command) : Nat → Token → Reader (List Word × Token)
  | 0, token => return ([], token)
  | fuel + 1, token => do
    let pattern := token.asWord?.getD []
    let next ← nextToken commands anything fuel
    if next.isOperator "|" then
      let (patterns, stop) ← patternList commands fuel (← nextToken commands anything fuel)
      return (pattern :: patterns, stop)
    else return ([pattern], next)

/-- The words of a list up to its closing parenthesis. -/
def listItems (commands : Reader Command) : Nat → Reader (List Word)
  | 0 => Reader.fail "Syntax error: too deep"
  | fuel + 1 => do
    let token ← nextToken commands ⟨true, false, false⟩ fuel
    match token with
    | .word parts => return parts :: (← listItems commands fuel)
    | .operator [')'] => return []
    | token => unexpected token (some ")")

/-- The commands whose arguments may be assignments. -/
def assigningCommands : List Chars :=
  ["alias", "declare", "export", "local", "readonly", "typeset"].map String.toList

/-- A word, with the list that is assigned by it if a parenthesis follows. -/
def withList (commands : Reader Command) (fuel : Nat) (word : Word) : Reader Word := do
  let isOpen : Bool := match word with
    | [.text content false] => (Assignment.ofWord? .extended word).isSome &&
        content.getLast? = some '='
    | _ => false
  if isOpen && (← Reader.isExtended) && (← Reader.peekRaw?) = some '(' then
    Reader.advance
    return word ++ [.list (← listItems commands fuel)]
  else return word

/-- The operators of a proposition that compare two words. -/
def comparisons : List Chars :=
  ["=", "==", "!=", "=~", "-eq", "-ne", "-lt", "-le", "-gt", "-ge", "-nt", "-ot", "-ef"].map
    String.toList

/-- The operators of a proposition that ask about one word. -/
def questions : List Chars :=
  "abcdefghknoprstuvwxzGLNORS".toList.map fun c => ['-', c]

/-- A command whose errors go where its output goes. -/
def withErrors (c : Command) : Command :=
  let change : Redirection := .duplicate 2 [.text ['1'] false]
  match c with
  | .simple line assignments words changes =>
    .simple line assignments words (changes ++ [change])
  | .redirected body changes => .redirected body (changes ++ [change])
  | c => .redirected c [change]

/-- Step over blanks and line ends. -/
def skipSpace : Nat → Reader Unit
  | 0 => return ()
  | fuel + 1 => do
    skipBlanks (← Reader.budget)
    if (← Reader.peek?) = some '\n' then
      Reader.advance
      skipSpace fuel
    else return ()

/-- A word of a proposition. -/
def propositionWord (commands : Reader Command) (region : Region) : Reader Word := do
  skipSpace (← Reader.budget)
  let word ← wordParts commands (2 * (← Reader.budget)) region []
  if word.isEmpty || bareText? word = some "]]".toList then
    Reader.fail "syntax error in conditional expression"
  else return word

mutual

/-- A disjunction of propositions. -/
def proposition (commands : Reader Command) : Nat → Reader Proposition
  | 0 => Reader.fail "Syntax error: too deep"
  | fuel + 1 => do
    let left ← conjunction commands fuel
    skipSpace (← Reader.budget)
    if (← get).rest.take 2 = ['|', '|'] then
      Reader.advance
      Reader.advance
      return .either left (← proposition commands fuel)
    else return left

/-- A conjunction of propositions. -/
def conjunction (commands : Reader Command) : Nat → Reader Proposition
  | 0 => Reader.fail "Syntax error: too deep"
  | fuel + 1 => do
    let left ← primary commands fuel
    skipSpace (← Reader.budget)
    if (← get).rest.take 2 = ['&', '&'] then
      Reader.advance
      Reader.advance
      return .both left (← conjunction commands fuel)
    else return left

/-- A proposition in parentheses, a negation, a question, a comparison or a word. -/
def primary (commands : Reader Command) : Nat → Reader Proposition
  | 0 => Reader.fail "Syntax error: too deep"
  | fuel + 1 => do
    skipSpace (← Reader.budget)
    if ← Reader.take '(' then
      let inner ← proposition commands fuel
      skipSpace (← Reader.budget)
      if ← Reader.take ')' then return inner
      else Reader.fail "syntax error in conditional expression"
    else
      let first ← propositionWord commands .plain
      match (bareText? first).filter fun t => t = ['!'] || questions.contains t with
      | some ['!'] => return .negated (← primary commands fuel)
      | some operator => return .question operator (← propositionWord commands .plain)
      | none =>
        skipBlanks (← Reader.budget)
        let next? ← Reader.peek?
        if next? = some '<' || next? = some '>' then
          Reader.advance
          return .comparison [next?.getD '<'] first (← propositionWord commands .plain)
        else
          let before ← get
          let operator? := (bareText? (← wordParts commands (2 * (← Reader.budget)) .plain []))
          match operator?.filter comparisons.contains with
          | some operator =>
            let isNumeric : Bool := operator.head? = some '-'
            let region : Region := if isNumeric then .plain else .matcher 0
            return .comparison operator first (← propositionWord commands region)
          | none =>
            set before
            return .word first

end

/-- A simple command as far as it has been read. -/
structure SimpleParts where
  assignments : List Word
  words : List Word
  redirections : List Redirection

/-- A token that has to come next. -/
def expectReserved (commands : Reader Command) (fuel : Nat) (name : String) : Reader Unit := do
  let token ← nextToken commands anything fuel
  if token.isReserved name then return () else unexpected token (some name)

mutual

/-- A list of commands. -/
def commandList : Nat → ListKind → Reader Command
  | 0, _ => Reader.fail "Syntax error: too deep"
  | fuel + 1, kind => commandListFrom fuel kind (kind = .optional) none

/-- The rest of a list of commands behind those that have been read. -/
def commandListFrom : Nat → ListKind → Bool → Option Command → Reader Command
  | 0, _, _, _ => Reader.fail "Syntax error: too deep"
  | fuel + 1, kind, mayClose, before => do
    let commands := commandList fuel .optional
    let token ←
      nextToken commands (if kind = .line then commandStart else commandAfterLines) fuel
    let soFar := before.getD .nothing
    match token with
    | .lineEnd =>
      readDocuments commands (← get).awaited
      return soFar
    | .textEnd =>
      readDocuments commands (← get).awaited
      putBack token
      return soFar
    | token =>
      putBack token
      if mayClose && token.closes then return soFar
      else
        let first ← conditional fuel
        let stop ← nextToken commands anything fuel
        let first := if stop.isOperator "&" then .background first else first
        let all := match before with
          | some c => .sequence c first
          | none => first
        match stop with
        | .lineEnd | .textEnd =>
          putBack stop
          commandListFrom fuel kind (kind ≠ .line) (some all)
        | stop =>
          if stop.isOperator "&" || stop.isOperator ";" then
            commandListFrom fuel kind (kind ≠ .line) (some all)
          else if kind = .line then unexpected stop none
          else
            putBack stop
            return all

/-- Pipelines joined by conditions. -/
def conditional : Nat → Reader Command
  | 0 => Reader.fail "Syntax error: too deep"
  | fuel + 1 => do conditionalFrom fuel (← negation fuel anything)

/-- The rest of pipelines joined by conditions. -/
def conditionalFrom : Nat → Command → Reader Command
  | 0, _ => Reader.fail "Syntax error: too deep"
  | fuel + 1, left => do
    let token ← nextToken (commandList fuel .optional) anything fuel
    if token.isOperator "&&" then
      conditionalFrom fuel (.both left (← negation fuel commandAfterLines))
    else if token.isOperator "||" then
      conditionalFrom fuel (.either left (← negation fuel commandAfterLines))
    else
      putBack token
      return left

/-- A pipeline, which a reserved word may negate. -/
def negation : Nat → Expectation → Reader Command
  | 0, _ => Reader.fail "Syntax error: too deep"
  | fuel + 1, e => do
    let token ← nextToken (commandList fuel .optional) e fuel
    if token.isReserved "time" then
      let option ← nextToken (commandList fuel .optional) commandStart fuel
      if option.asWord?.bind bareText? ≠ some ['-', 'p'] then putBack option
      negation fuel commandStart
    else if token.isReserved "!" then
      if ← Reader.isExtended then return .negated (← negation fuel commandStart)
      else return .negated (← pipeline fuel commandStart)
    else
      putBack token
      pipeline fuel anything

/-- Commands joined by pipes. -/
def pipeline : Nat → Expectation → Reader Command
  | 0, _ => Reader.fail "Syntax error: too deep"
  | fuel + 1, e => do
    let first ← command fuel e
    let (first, rest) ← pipelineRest fuel first
    if rest.isEmpty then return first else return .pipeline (first :: rest)

/-- A command with what its pipe takes from it, and the commands behind pipes. -/
def pipelineRest : Nat → Command → Reader (Command × List Command)
  | 0, _ => Reader.fail "Syntax error: too deep"
  | fuel + 1, first => do
    let token ← nextToken (commandList fuel .optional) anything fuel
    let takesErrors := token.isOperator "|&"
    if token.isOperator "|" || takesErrors then
      let next ← command fuel commandAfterLines
      let (next, rest) ← pipelineRest fuel next
      let first := if takesErrors then withErrors first else first
      return (first, next :: rest)
    else
      putBack token
      return (first, [])

/-- A command with its redirections. -/
def command : Nat → Expectation → Reader Command
  | 0, _ => Reader.fail "Syntax error: too deep"
  | fuel + 1, e => do
    let commands := commandList fuel .optional
    let token ← nextToken commands e fuel
    match token with
    | .word _ | .redirection _ _ =>
      putBack token
      simpleCommand fuel (← get).line ⟨[], [], []⟩
    | token =>
      let body ← compound fuel token
      let changes ← redirections commands fuel
      match body, changes with
      | body, [] => return body
      | body, changes => return .redirected body changes

/-- A command that starts with a reserved word or a parenthesis. -/
def compound : Nat → Token → Reader Command
  | 0, _ => Reader.fail "Syntax error: too deep"
  | fuel + 1, token => do
    let commands := commandList fuel .optional
    if token.isReserved "if" then
      let result ← branches fuel
      expectReserved commands fuel "fi"
      return result
    else if token.isReserved "while" || token.isReserved "until" then
      let condition ← commandList fuel .enclosed
      expectReserved commands fuel "do"
      let body ← commandList fuel .enclosed
      expectReserved commands fuel "done"
      return .loop (token.isReserved "until") condition body
    else if token.isReserved "[[" then
      let condition ← proposition commands fuel
      skipSpace (← Reader.budget)
      let stop ← wordParts commands (2 * (← Reader.budget)) .plain []
      if bareText? stop = some "]]".toList then return .proposition condition
      else Reader.fail "syntax error in conditional expression"
    else if token.isReserved "function" then
      let name ← nextToken commands anything fuel
      match name.asWord?.bind bareText? with
      | none => unexpected name none
      | some name =>
        let next ← nextToken commands anything fuel
        if next.isOperator "(" then
          let stop ← nextToken commands anything fuel
          if stop.isOperator ")" then return .define name (← command fuel commandAfterLines)
          else unexpected stop (some ")")
        else
          putBack next
          return .define name (← command fuel commandAfterLines)
    else if token.isReserved "for" then
      skipBlanks (← Reader.budget)
      if (← Reader.isExtended) && (← get).rest.take 2 = ['(', '('] then countedLoop fuel
      else iteration fuel
    else if token.isReserved "case" then
      let subject ← nextToken commands anything fuel
      match subject with
      | .word parts =>
        let start ← nextToken commands commandAfterLines fuel
        if start.isReserved "in" then
          return .choice parts (← choices fuel parts)
        else unexpected start (some "in")
      | subject => unexpected subject none
    else if let some expression ← calculation fuel token then return .calculation expression
    else if token.isOperator "(" then
      let body ← commandList fuel .enclosed
      let stop ← nextToken commands anything fuel
      if stop.isOperator ")" then return .subshell body else unexpected stop (some ")")
    else if token.isReserved "\x7b" then
      let body ← commandList fuel .enclosed
      expectReserved commands fuel "\x7d"
      return body
    else unexpected token none

/-- The expression between two parentheses, if there is one behind the first of
them. -/
def calculation : Nat → Token → Reader (Option Word)
  | 0, _ => return none
  | fuel + 1, token => do
    if token.isOperator "(" && (← Reader.isExtended) && (← Reader.peekRaw?) = some '(' then
      Reader.attempt do
        Reader.advance
        wordParts (commandList fuel .optional) (2 * (← Reader.budget)) (.arithmetic 0) []
    else return none

/-- A loop that counts, behind its first word. -/
def countedLoop : Nat → Reader Command
  | 0 => Reader.fail "Syntax error: too deep"
  | fuel + 1 => do
    let commands := commandList fuel .optional
    Reader.advance
    Reader.advance
    let header ← wordParts commands (2 * (← Reader.budget)) (.arithmetic 0) []
    let (start, rest?) := splitWord ';' header
    let (goal, rest?) := splitWord ';' (rest?.getD [])
    match rest? with
    | none => Reader.fail "syntax error: arithmetic expression required"
    | some next =>
      let token ← nextToken commands commandAfterLines fuel
      let token ← if token.isOperator ";" then nextToken commands commandAfterLines fuel
        else pure token
      let isBraced := token.isReserved "\x7b"
      if isBraced || token.isReserved "do" then
        let body ← commandList fuel .enclosed
        expectReserved commands fuel (if isBraced then "\x7d" else "done")
        return .countedLoop start goal next body
      else unexpected token (some "do")

/-- The branches behind `if` or `elif`, up to the closing word. -/
def branches : Nat → Reader Command
  | 0 => Reader.fail "Syntax error: too deep"
  | fuel + 1 => do
    let commands := commandList fuel .optional
    let condition ← commandList fuel .enclosed
    expectReserved commands fuel "then"
    let consequence ← commandList fuel .enclosed
    let token ← nextToken commands anything fuel
    if token.isReserved "elif" then return .branch condition consequence (← branches fuel)
    else if token.isReserved "else" then
      return .branch condition consequence (← commandList fuel .enclosed)
    else
      putBack token
      return .branch condition consequence .nothing

/-- A loop over words, behind its first word. -/
def iteration : Nat → Reader Command
  | 0 => Reader.fail "Syntax error: too deep"
  | fuel + 1 => do
    let commands := commandList fuel .optional
    let token ← nextToken commands anything fuel
    let name := match token with
      | .word parts => (bareText? parts).filter isName
      | _ => none
    match name with
    | none => Reader.fail "Syntax error: Bad for loop variable"
    | some name =>
      let next ← nextToken commands commandAfterLines fuel
      let words ←
        if next.isReserved "in" then
          let (words, stop) ← wordList commands fuel
          if stop.isLineEnd || stop.isOperator ";" then pure words else unexpected stop none
        else
          if !next.isOperator ";" then putBack next
          pure [[Part.parameter ['@'] .plain true]]
      let start ← nextToken commands commandAfterLines fuel
      let isBraced := start.isReserved "\x7b" && (← Reader.isExtended)
      if start.isReserved "do" || isBraced then
        let body ← commandList fuel .enclosed
        expectReserved commands fuel (if isBraced then "\x7d" else "done")
        return .forEach name words body
      else unexpected start (some "do")

/-- The clauses of a choice by a subject, with the closing word.  A clause may go on
with the commands of the next one, or with the clauses behind it. -/
def choices : Nat → Word → Reader (List (List Word × Command))
  | 0, _ => Reader.fail "Syntax error: too deep"
  | fuel + 1, subject => do
    let commands := commandList fuel .optional
    let token ← nextToken commands clauseStart fuel
    if token.isReserved "esac" then return []
    else
      let first ← if token.isOperator "(" then nextToken commands anything fuel else pure token
      let (patterns, stop) ← patternList commands fuel first
      if stop.isOperator ")" then
        let body ← commandList fuel .optional
        let next ← nextToken commands clauseStart fuel
        if next.isReserved "esac" then return [(patterns, body)]
        else if next.isOperator ";;" then return (patterns, body) :: (← choices fuel subject)
        else if next.isOperator ";&" then
          let rest ← choices fuel subject
          let further := (rest.head?.map Prod.snd).getD .nothing
          return (patterns, .sequence body further) :: rest
        else if next.isOperator ";;&" then
          let rest ← choices fuel subject
          return (patterns, .sequence body (.choice subject rest)) :: rest
        else unexpected next (some ";;")
      else unexpected stop (some ")")

/-- A command of words, or the definition of a function. -/
def simpleCommand : Nat → Nat → SimpleParts → Reader Command
  | 0, _, _ => Reader.fail "Syntax error: too deep"
  | fuel + 1, line, p => do
    let commands := commandList fuel .optional
    let token ← nextToken commands ⟨false, false, p.words.isEmpty⟩ fuel
    match token with
    | .word parts =>
      let dialect := (← get).dialect
      let assigns : Bool := (Assignment.ofWord? dialect parts).isSome
      let isArgument := (p.words.head?.bind bareText?).any assigningCommands.contains
      let parts ←
        if assigns && (p.words.isEmpty || isArgument) then withList commands fuel parts
        else pure parts
      if p.words.isEmpty && assigns then
        simpleCommand fuel line { p with assignments := p.assignments ++ [parts] }
      else simpleCommand fuel line { p with words := p.words ++ [parts] }
    | .redirection symbol descriptor =>
      let next ← redirection commands fuel symbol descriptor
      simpleCommand fuel line { p with redirections := p.redirections ++ [next] }
    | token =>
      match token.isOperator "(", p with
      | true, ⟨[], [name], []⟩ =>
        let stop ← nextToken commands anything fuel
        if stop.isOperator ")" then
          let isExtended ← Reader.isExtended
          match (bareText? name).filter fun n =>
              isExtended || (isName n && !specialCommands.contains n) with
          | some name =>
            return .define name (← command fuel commandAfterLines)
          | none => Reader.fail "Syntax error: Bad function name"
        else unexpected stop (some ")")
      | _, p =>
        putBack token
        return .simple line p.assignments p.words p.redirections

end

/-- A line of commands and the place behind it. -/
structure CommandLine where
  command : Command
  after : Cursor

/-- The next line of commands, if the text does not end here. -/
def Cursor.nextLine (s : Cursor) : Except Malformed (Option CommandLine) :=
  match (commandList (8 * s.rest.length + 16) .line).run s with
  | .error e => .error e
  | .ok (found, after) =>
    match after.ahead, found with
    | some .textEnd, .nothing => .ok none
    | some .textEnd, found => .ok (some ⟨found, { after with ahead := none }⟩)
    | _, found => .ok (some ⟨found, after⟩)

end Shell

end TcpJournal
