import TcpJournal.Shell.Escape
import TcpJournal.Shell.Syntax
import TcpJournal.Text

/-!
# Tokens of a command line

The reader of tokens takes words, operators and line ends from the front of a
text.  A word is read with its quotes and expansions; the commands inside a
substitution are read by the reader of commands, which is a parameter here.  A
backslash in front of a line end joins two lines everywhere but in single
quotes.
-/

namespace TcpJournal

namespace Shell

/-- A token: a word, a reserved word, an operator, the start of a redirection
with its descriptor, the end of a line, or the end of the text. -/
inductive Token where
  | word (parts : Word)
  | reserved (name : Chars)
  | operator (symbol : Chars)
  | redirection (symbol : Chars) (descriptor : Nat)
  | lineEnd
  | textEnd

/-- A document that starts behind the next line end. -/
structure AwaitedDocument where
  number : Nat
  delimiter : Chars
  isLiteral : Bool
  stripsTabs : Bool
  deriving DecidableEq, Repr

/-- Why a text is no command line, and the line where that shows. -/
structure Malformed where
  reason : Chars
  line : Nat
  deriving DecidableEq, Repr

/-- A place in a text that is being read: what is left of it, the line, a token
that was read ahead, the documents, and the words that stand for other text. -/
structure Cursor where
  rest : Chars
  line : Nat
  ahead : Option Token
  awaited : List AwaitedDocument
  documents : List (Nat × Word)
  nextDocument : Nat
  aliases : List (Chars × Chars)
  openAliases : List (Chars × Nat)
  dialect : Dialect

/-- A reader of command lines. -/
abbrev Reader := StateT Cursor (Except Malformed)

namespace Reader

/-- Give up. -/
def fail {α : Type} (reason : String) : Reader α := do
  throw ⟨reason.toList, (← get).line⟩

/-- The next character behind joined lines, which stays in place. -/
def joined : Nat → Chars → Chars × Nat
  | lines, '\\' :: '\n' :: rest => joined (lines + 1) rest
  | lines, rest => (rest, lines)

/-- The next character, if there is one; lines are joined first. -/
def peek? : Reader (Option Char) := do
  let s ← get
  let (rest, lines) := joined 0 s.rest
  set { s with rest, line := s.line + lines }
  return rest.head?

/-- The next character without joining lines. -/
def peekRaw? : Reader (Option Char) := do
  return (← get).rest.head?

/-- Step over a character. -/
def advance : Reader Unit :=
  modify fun s =>
    match s.rest with
    | [] => s
    | c :: rest => { s with rest, line := if c = '\n' then s.line + 1 else s.line }

/-- Step over a character if it is the next one. -/
def take (c : Char) : Reader Bool := do
  if (← peek?) = some c then
    advance
    return true
  else return false

/-- The text is in the extended language. -/
def isExtended : Reader Bool := do
  return (← get).dialect = .extended

/-- Step over a character if the text is in the extended language and it is the
next one. -/
def takeExtended (c : Char) : Reader Bool := do
  if ← isExtended then take c else return false

/-- Try a reader; if it fails, the place and the answer are as before. -/
def attempt {α : Type} (reader : Reader α) : Reader (Option α) := fun s =>
  match reader s with
  | .ok (a, s) => .ok (some a, s)
  | .error _ => .ok (none, s)

/-- A bound for the number of steps until the end of the text. -/
def budget : Reader Nat := do
  return (← get).rest.length + 2

/-- The longest text of characters of a class. -/
def takeClass (holds : Char → Bool) : Nat → Reader Chars
  | 0 => return []
  | fuel + 1 => do
    match ← peek? with
    | some c =>
      if holds c then
        advance
        return c :: (← takeClass holds fuel)
      else return []
    | none => return []

end Reader

/-- Neighbouring pieces of text with the same quoting become one. -/
def joinText (parts : Word) : Word :=
  parts.foldr
    (fun part rest =>
      match part, rest with
      | .text a q, .text b r :: rest' =>
        if q = r then .text (a ++ b) q :: rest' else part :: rest
      | _, _ => part :: rest)
    []

/-- Where a part of a word stands, which decides what ends it and which
characters have a meaning there. -/
inductive Region where
  | plain
  | quotes
  | braces
  | pattern
  | matcher (depth : Nat)
  | subscript (depth : Nat)
  | quotedBraces (innerQuotes : Bool)
  | arithmetic (depth : Nat)
  | document
  deriving DecidableEq, Repr

namespace Region

/-- Text in the region counts as quoted. -/
def isQuoted : Region → Bool
  | plain | braces | pattern | matcher _ | subscript _ => false
  | quotes | quotedBraces _ | arithmetic _ | document => true

/-- A backslash in front of a character is removed in the region. -/
def escapes (region : Region) (c : Char) : Bool :=
  match region with
  | plain | braces | pattern | matcher _ | subscript _ => true
  | quotes => c = '\\' || c = '\x60' || c = '$' || c = '"'
  | quotedBraces inner => c = '\\' || c = '\x60' || c = '$' || c = '"' || (c = '\x7d' && !inner)
  | arithmetic _ => c = '\\' || c = '\x60' || c = '$' || c = '"'
  | document => c = '\\' || c = '\x60' || c = '$'

end Region

/-- A character that ends a word without quotes. -/
def endsWord (c : Char) : Bool :=
  c = '\n' || c = ' ' || c = '\t' || c = ';' || c = '&' || c = '|' || c = '<' || c = '>' ||
    c = '(' || c = ')'

/-- What a character without quotes does in a region where quotes have their
meaning: it ends the region and stays in place, it ends it and is taken, or it
is text and leads on. -/
inductive Effect where
  | stopBefore
  | stopBehind
  | onward (region : Region)
  deriving DecidableEq, Repr

/-- The effect of a character without quotes. -/
def Region.effect (region : Region) (c : Char) : Effect :=
  match region with
  | .plain => if endsWord c then .stopBefore else .onward .plain
  | .pattern => if c = '/' || c = '\x7d' then .stopBefore else .onward .pattern
  | .matcher depth =>
    if c = '(' then .onward (.matcher (depth + 1))
    else if depth > 0 then .onward (.matcher (if c = ')' then depth - 1 else depth))
    else if c = ' ' || c = '\t' || c = '\n' || c = ')' then .stopBefore
    else .onward region
  | .subscript depth =>
    if c = '[' then .onward (.subscript (depth + 1))
    else if c = ']' then if depth > 0 then .onward (.subscript (depth - 1)) else .stopBehind
    else .onward region
  | _ => if c = '\x7d' then .stopBehind else .onward region

/-- A parameter whose name is one character other than a letter. -/
def isSpecialParameter (c : Char) : Bool :=
  c = '!' || c = '#' || c = '$' || c = '*' || c = '-' || c = '?' || c = '@' || Text.isDigit c

/-- The text up to a single quote. -/
def singleQuoted : Nat → Chars → Reader Chars
  | 0, _ => Reader.fail "Syntax error: Unterminated quoted string"
  | fuel + 1, before => do
    match ← Reader.peekRaw? with
    | none => Reader.fail "Syntax error: Unterminated quoted string"
    | some c =>
      Reader.advance
      if c = '\'' then return before.reverse else singleQuoted fuel (c :: before)

/-- The text up to a single quote, in which a backslash protects a quote. -/
def escapedQuoted : Nat → Chars → Reader Chars
  | 0, _ => Reader.fail "Syntax error: Unterminated quoted string"
  | fuel + 1, before => do
    match ← Reader.peekRaw? with
    | none => Reader.fail "Syntax error: Unterminated quoted string"
    | some c =>
      Reader.advance
      if c = '\'' then return before.reverse
      else if c = '\\' then
        match ← Reader.peekRaw? with
        | none => Reader.fail "Syntax error: Unterminated quoted string"
        | some d =>
          Reader.advance
          escapedQuoted fuel (d :: '\\' :: before)
      else escapedQuoted fuel (c :: before)

/-- A text with its escape sequences replaced; a null character ends it. -/
def quotedEscapes : Nat → Chars → Chars
  | 0, _ => []
  | _, [] => []
  | fuel + 1, '\\' :: rest =>
    match extendedEscape .quotes rest with
    | .text ['\x00'] _ => []
    | .text chars rest => chars ++ quotedEscapes fuel rest
    | _ => []
  | fuel + 1, c :: rest => c :: quotedEscapes fuel rest

/-- The text up to a back quote, without the backslashes that protect
characters in it. -/
def backQuoted (inQuotes : Bool) : Nat → Chars → Reader Chars
  | 0, _ => Reader.fail "Syntax error: EOF in backquote substitution"
  | fuel + 1, before => do
    match ← Reader.peek? with
    | none => Reader.fail "Syntax error: EOF in backquote substitution"
    | some '\x60' =>
      Reader.advance
      return before.reverse
    | some '\\' =>
      Reader.advance
      match ← Reader.peekRaw? with
      | none => backQuoted inQuotes fuel ('\\' :: before)
      | some c =>
        Reader.advance
        if c = '\\' || c = '\x60' || c = '$' || (inQuotes && c = '"') then
          backQuoted inQuotes fuel (c :: before)
        else backQuoted inQuotes fuel (c :: '\\' :: before)
    | some c =>
      Reader.advance
      backQuoted inQuotes fuel (c :: before)

/-- Read a text of its own with a reader, and come back. -/
def readApart {α : Type} (reader : Reader α) (text : Chars) : Reader α := do
  let outer ← get
  set { outer with rest := text, ahead := none, awaited := [], openAliases := [] }
  let result ← reader
  modify fun s =>
    { s with
      rest := outer.rest
      line := outer.line
      ahead := outer.ahead
      awaited := outer.awaited
      openAliases := outer.openAliases }
  return result

/-- What follows a dollar sign: the name of a parameter in front of its form,
with a flag for the form that asks for its size. -/
def parameterName (fuel : Nat) : Reader (Chars × Bool) := do
  match ← Reader.peek? with
  | none => return ([], false)
  | some c =>
    if startsName c then return (← Reader.takeClass isNameChar fuel, false)
    else if Text.isDigit c then return (← Reader.takeClass Text.isDigit fuel, false)
    else if c = '#' then
      Reader.advance
      match ← Reader.peek? with
      | some d =>
        if isNameChar d then
          return (← Reader.takeClass (if Text.isDigit d then Text.isDigit else isNameChar) fuel,
            true)
        else if isSpecialParameter d then
          let s ← get
          Reader.advance
          if (← Reader.peek?) = some '\x7d' then return ([d], true)
          else
            set s
            return (['#'], false)
        else return (['#'], false)
      | none => return (['#'], false)
    else if isSpecialParameter c then
      Reader.advance
      return ([c], false)
    else return ([], false)

/-- The replacement that a character asks for. -/
def replacement? : Char → Option Replacement
  | '-' => some .standIn
  | '=' => some .assign
  | '?' => some .complain
  | '+' => some .alternative
  | _ => none

/-- The parts between double quotes, last first.  Empty text marks that there
were quotes, except around all arguments or the elements of a list, of which there
may be none. -/
def quotedParts (parts : Word) : Word :=
  match parts with
  | [.parameter ['@'] .plain _] => parts
  | [.parameter ['@'] (.slice ..) _] => parts
  | [.element _ [.text ['@'] _] .plain _] => parts
  | [.element _ [.text ['@'] _] .keys _] => parts
  | [.element _ [.text ['@'] _] (.slice ..) _] => parts
  | parts => parts.reverse ++ [.text [] true]

/-- A word split at the first place where a character stands in its text. -/
def splitWord (c : Char) : Word → Word × Option Word
  | [] => ([], none)
  | .text content isQuoted :: rest =>
    if content.contains c then
      let before := content.takeWhile (· ≠ c)
      ([.text before isQuoted], some (.text (content.drop (before.length + 1)) isQuoted :: rest))
    else
      let (before, after) := splitWord c rest
      (.text content isQuoted :: before, after)
  | part :: rest =>
    let (before, after) := splitWord c rest
    (part :: before, after)

mutual

/-- The parts of a word from the current place to the end of the region, in
front of those that come before, last first. -/
def wordParts (commands : Reader Command) : Nat → Region → Word → Reader Word
  | 0, _, _ => Reader.fail "Syntax error: word too long"
  | fuel + 1, region, before => do
    match ← Reader.peek? with
    | none =>
      match region with
      | .plain | .document => return joinText before.reverse
      | .quotes => Reader.fail "Syntax error: Unterminated quoted string"
      | .matcher 0 => return joinText before.reverse
      | .braces | .pattern | .matcher _ | .subscript _ =>
        Reader.fail "Syntax error: Missing '\x7d'"
      | .quotedBraces _ => Reader.fail "Syntax error: Unterminated quoted string"
      | .arithmetic _ => Reader.fail "Syntax error: Missing '))'"
    | some c =>
      if c = '\\' then
        Reader.advance
        match ← Reader.peekRaw? with
        | none => wordParts commands fuel region (.text ['\\'] true :: before)
        | some d =>
          Reader.advance
          if region.escapes d then
            wordParts commands fuel region (.text [d] true :: before)
          else wordParts commands fuel region (.text ['\\', d] true :: before)
      else if c = '$' then
        Reader.advance
        let next? ← Reader.peekRaw?
        if next? = some '"' && !region.isQuoted && (← Reader.isExtended) then
          wordParts commands fuel region before
        else
          let part ← dollar commands fuel region
          wordParts commands fuel region (part :: before)
      else if c = '\x60' then
        Reader.advance
        let text ← backQuoted region.isQuoted (← Reader.budget) []
        let body ← readApart commands text
        wordParts commands fuel region (.output body region.isQuoted :: before)
      else
        match region with
        | .quotes =>
          Reader.advance
          if c = '"' then return joinText before.reverse
          else wordParts commands fuel region (.text [c] true :: before)
        | .quotedBraces inner =>
          Reader.advance
          if c = '\x7d' && !inner then return joinText before.reverse
          else if c = '"' then wordParts commands fuel (.quotedBraces !inner) before
          else wordParts commands fuel region (.text [c] true :: before)
        | .arithmetic depth =>
          Reader.advance
          if c = '(' then
            wordParts commands fuel (.arithmetic (depth + 1)) (.text [c] true :: before)
          else if c = ')' && depth > 0 then
            wordParts commands fuel (.arithmetic (depth - 1)) (.text [c] true :: before)
          else if c = ')' then
            if ← Reader.take ')' then return joinText before.reverse
            else wordParts commands fuel region (.text [c] true :: before)
          else wordParts commands fuel region (.text [c] true :: before)
        | .document =>
          Reader.advance
          wordParts commands fuel region (.text [c] true :: before)
        | region =>
          if c = '\'' then
            Reader.advance
            let text ← singleQuoted (← Reader.budget) []
            wordParts commands fuel region (.text text true :: before)
          else if c = '"' then
            Reader.advance
            let parts ← wordParts commands fuel .quotes []
            wordParts commands fuel region (quotedParts parts ++ before)
          else
            match region.effect c with
            | .stopBefore => return joinText before.reverse
            | .stopBehind =>
              Reader.advance
              return joinText before.reverse
            | .onward region =>
              Reader.advance
              wordParts commands fuel region (.text [c] false :: before)

/-- The commands up to a closing parenthesis. -/
def enclosedCommands (commands : Reader Command) : Nat → Reader Command
  | 0 => Reader.fail "Syntax error: word too long"
  | _ + 1 => do
    let outer ← get
    set { outer with ahead := none, awaited := [] }
    let body ← commands
    match (← get).ahead with
    | some (.operator [')']) =>
      modify fun s => { s with ahead := none, awaited := outer.awaited }
      return body
    | _ => Reader.fail "Syntax error: end of file unexpected (expecting \")\")"

/-- The part behind a dollar sign. -/
def dollar (commands : Reader Command) : Nat → Region → Reader Part
  | 0, _ => Reader.fail "Syntax error: word too long"
  | fuel + 1, region => do
    let isQuoted := region.isQuoted
    match ← Reader.peek? with
    | none => return .text ['$'] isQuoted
    | some '(' =>
      Reader.advance
      if ← Reader.take '(' then
        return .arithmetic (← wordParts commands fuel (.arithmetic 0) []) isQuoted
      else return .output (← enclosedCommands commands fuel) isQuoted
    | some '\x7b' =>
      Reader.advance
      if (← Reader.isExtended) && (← Reader.peek?) = some '!' then indirect commands fuel region
      else
        let (name, isSize) ← parameterName fuel
        let subscript? ← subscript commands fuel name
        let form ←
          if isSize then
            if ← Reader.take '\x7d' then pure .size else malformed commands fuel isQuoted
          else if name = [] then malformed commands fuel isQuoted
          else braced commands fuel region
        match subscript? with
        | some subscript => return .element name subscript form isQuoted
        | none => return .parameter name form isQuoted
    | some c =>
      if startsName c then
        return .parameter (← Reader.takeClass isNameChar fuel) .plain isQuoted
      else if c = '[' && (← Reader.isExtended) then
        Reader.advance
        return .arithmetic (← wordParts commands fuel (.subscript 0) []) isQuoted
      else if isSpecialParameter c then
        Reader.advance
        return .parameter [c] .plain isQuoted
      else if c = '\'' && !isQuoted && (← Reader.isExtended) then
        Reader.advance
        let text ← escapedQuoted (← Reader.budget) []
        return .text (quotedEscapes (text.length + 1) text) true
      else return .text ['$'] isQuoted

/-- The subscript behind the name of a parameter in the extended language. -/
def subscript (commands : Reader Command) : Nat → Chars → Reader (Option Word)
  | 0, _ => Reader.fail "Syntax error: word too long"
  | fuel + 1, name => do
    if isName name && (← Reader.isExtended) && (← Reader.peek?) = some '[' then
      Reader.advance
      return some (← wordParts commands fuel (.subscript 0) [])
    else return none

/-- The form in braces that means nothing. -/
def malformed (commands : Reader Command) : Nat → Bool → Reader Form
  | 0, _ => Reader.fail "Syntax error: word too long"
  | fuel + 1, isQuoted => do
    let _ ← wordParts commands fuel (if isQuoted then .quotedBraces false else .braces) []
    return .malformed

/-- The part behind an exclamation mark in braces: the parameter that a value
names, the keys of a list, or the names with a start. -/
def indirect (commands : Reader Command) : Nat → Region → Reader Part
  | 0, _ => Reader.fail "Syntax error: word too long"
  | fuel + 1, region => do
    let isQuoted := region.isQuoted
    Reader.advance
    let (name, _) ← parameterName fuel
    let subscript? ← subscript commands fuel name
    match subscript?, ← Reader.peek? with
    | some subscript, some '\x7d' =>
      Reader.advance
      return .element name subscript .keys isQuoted
    | none, some '\x7d' =>
      Reader.advance
      if name = [] then return .parameter ['!'] .plain isQuoted
      else return .parameter name .named isQuoted
    | none, some c =>
      let s ← get
      Reader.advance
      if (c = '*' || c = '@') && isName name && (← Reader.take '\x7d') then
        return .element name [.text [c] false] .startingNames isQuoted
      else
        set s
        if name = [] then return .parameter ['!'] (← braced commands fuel region) isQuoted
        else return .parameter name (← malformed commands fuel isQuoted) isQuoted
    | _, _ => return .parameter name (← malformed commands fuel isQuoted) isQuoted

/-- The form in braces behind the name of a parameter. -/
def braced (commands : Reader Command) : Nat → Region → Reader Form
  | 0, _ => Reader.fail "Syntax error: word too long"
  | fuel + 1, region => do
    let isQuoted := region.isQuoted
    let inside : Region := if isQuoted then .quotedBraces false else .braces
    match ← Reader.peek? with
    | some '\x7d' =>
      Reader.advance
      return .plain
    | some '%' => cutting commands fuel .back '%'
    | some '#' => cutting commands fuel .front '#'
    | some ':' =>
      Reader.advance
      match (← Reader.peek?).bind replacement? with
      | some how =>
        Reader.advance
        let word ← wordParts commands fuel inside []
        return .replaced how true word
      | none =>
        let word ← wordParts commands fuel inside []
        if ← Reader.isExtended then
          let (offset, length?) := splitWord ':' word
          return .slice offset length?.isSome (length?.getD [])
        else return .malformed
    | some c =>
      match replacement? c with
      | some how =>
        Reader.advance
        let word ← wordParts commands fuel inside []
        return .replaced how false word
      | none =>
        if ← Reader.isExtended then extendedForm commands fuel inside c
        else
          let _ ← wordParts commands fuel inside []
          return .malformed
    | none => Reader.fail "Syntax error: Missing '\x7d'"

/-- A form of the extended language that starts with a character. -/
def extendedForm (commands : Reader Command) : Nat → Region → Char → Reader Form
  | 0, _, _ => Reader.fail "Syntax error: word too long"
  | fuel + 1, inside, c => do
    if c = '/' then
      Reader.advance
      let place : MatchPlace ←
        if ← Reader.take '/' then pure .everywhere
        else if ← Reader.take '#' then pure .front
        else if ← Reader.take '%' then pure .back
        else pure .first
      let pattern ← wordParts commands fuel .pattern []
      if ← Reader.take '/' then
        return .exchanged place pattern (← wordParts commands fuel inside [])
      else if ← Reader.take '\x7d' then return .exchanged place pattern []
      else Reader.fail "Syntax error: Missing '\x7d'"
    else if c = '@' then
      Reader.advance
      match ← Reader.peek? with
      | some letter =>
        Reader.advance
        if ← Reader.take '\x7d' then return .shown letter else malformed commands fuel false
      | none => Reader.fail "Syntax error: Missing '\x7d'"
    else
      let change? : Option CaseChange :=
        match c with
        | '^' => some .upper
        | ',' => some .lower
        | '~' => some .toggled
        | _ => none
      match change? with
      | none => malformed commands fuel false
      | some change =>
        Reader.advance
        let everywhere ← Reader.take c
        return .recased change everywhere (← wordParts commands fuel .braces [])

/-- The form that cuts a pattern off a value; one sign asks for the shortest
match, two for the longest. -/
def cutting (commands : Reader Command) : Nat → CutEnd → Char → Reader Form
  | 0, _, _ => Reader.fail "Syntax error: word too long"
  | fuel + 1, side, sign => do
    Reader.advance
    let longest ← Reader.take sign
    let pattern ← wordParts commands fuel .braces []
    return .cut side longest pattern

end

/-- Step over blanks and comments. -/
def skipBlanks : Nat → Reader Unit
  | 0 => return ()
  | fuel + 1 => do
    match ← Reader.peek? with
    | some ' ' | some '\t' =>
      Reader.advance
      skipBlanks fuel
    | some '#' => modify fun s => { s with rest := s.rest.dropWhile (· ≠ '\n') }
    | _ => return ()

/-- The symbol of a redirection, behind its first character. -/
def redirectionSymbol (c : Char) : Reader Chars := do
  if c = '>' then
    if ← Reader.take '>' then return ['>', '>']
    else if ← Reader.take '|' then return ['>', '|']
    else if ← Reader.take '&' then return ['>', '&']
    else return ['>']
  else if ← Reader.take '<' then
    if ← Reader.take '-' then return ['<', '<', '-']
    else if ← Reader.takeExtended '<' then return ['<', '<', '<']
    else return ['<', '<']
  else if ← Reader.take '&' then return ['<', '&']
  else if ← Reader.take '>' then return ['<', '>']
  else return ['<']

/-- The operator that starts with a character. -/
def operatorSymbol (c : Char) : Reader Chars := do
  if c = ';' then
    if ← Reader.take ';' then
      return if ← Reader.takeExtended '&' then [';', ';', '&'] else [';', ';']
    else return if ← Reader.takeExtended '&' then [';', '&'] else [';']
  else if c = '&' then return if ← Reader.take '&' then ['&', '&'] else ['&']
  else if c = '|' then
    if ← Reader.take '|' then return ['|', '|']
    else return if ← Reader.takeExtended '&' then ['|', '&'] else ['|']
  else return [c]

/-- The descriptor that the text in front of a redirection names. -/
def descriptorOf? (dialect : Dialect) (text : Chars) : Option Nat :=
  if text ≠ [] && text.all Text.isDigit && (text.length = 1 || dialect = .extended) then
    some (Decimal.value text)
  else none

/-- A new token from the text. -/
def freshToken (commands : Reader Command) : Reader Token := do
  let fuel ← Reader.budget
  skipBlanks fuel
  match ← Reader.peek? with
  | none => return .textEnd
  | some '\n' =>
    Reader.advance
    return .lineEnd
  | some c =>
    if c = '<' || c = '>' then
      Reader.advance
      if (← Reader.peekRaw?) = some '(' && (← Reader.isExtended) then
        Reader.advance
        let body ← enclosedCommands commands fuel
        return .word (← wordParts commands (2 * fuel) .plain [.channel (c = '<') body])
      else return .redirection (← redirectionSymbol c) (if c = '<' then 0 else 1)
    else if endsWord c then
      Reader.advance
      let isBoth ← if c = '&' then Reader.takeExtended '>' else pure false
      if isBoth then
        return .redirection (if ← Reader.take '>' then "&>>".toList else "&>".toList) 1
      else return .operator (← operatorSymbol c)
    else
      let parts ← wordParts commands (2 * fuel) .plain []
      match (bareText? parts).bind (descriptorOf? (← get).dialect), ← Reader.peek? with
      | some descriptor, some s =>
        if s = '<' || s = '>' then
          Reader.advance
          return .redirection (← redirectionSymbol s) descriptor
        else return .word parts
      | _, _ => return .word parts

/-- The delimiter of a document: a word in which expansions have no meaning,
and whether any of it is quoted. -/
def delimiterText : Nat → Chars → Bool → Reader (Chars × Bool)
  | 0, before, isQuoted => return (before.reverse, isQuoted)
  | fuel + 1, before, isQuoted => do
    match ← Reader.peek? with
    | none => return (before.reverse, isQuoted)
    | some c =>
      if endsWord c then return (before.reverse, isQuoted)
      else
        Reader.advance
        if c = '\\' then
          match ← Reader.peekRaw? with
          | none => return (('\\' :: before).reverse, true)
          | some d =>
            Reader.advance
            delimiterText fuel (d :: before) true
        else if c = '\'' then
          let text ← singleQuoted (← Reader.budget) []
          delimiterText fuel (text.reverse ++ before) true
        else if c = '"' then
          let text ← doubleQuoted (← Reader.budget) []
          delimiterText fuel (text.reverse ++ before) true
        else delimiterText fuel (c :: before) isQuoted
where
  /-- The text up to a double quote. -/
  doubleQuoted : Nat → Chars → Reader Chars
    | 0, _ => Reader.fail "Syntax error: Unterminated quoted string"
    | fuel + 1, before => do
      match ← Reader.peek? with
      | none => Reader.fail "Syntax error: Unterminated quoted string"
      | some '"' =>
        Reader.advance
        return before.reverse
      | some '\\' =>
        Reader.advance
        match ← Reader.peekRaw? with
        | none => doubleQuoted fuel ('\\' :: before)
        | some d =>
          Reader.advance
          if Region.quotes.escapes d then doubleQuoted fuel (d :: before)
          else doubleQuoted fuel (d :: '\\' :: before)
      | some c =>
        Reader.advance
        doubleQuoted fuel (c :: before)

/-- A line of text without its end, and what follows it. -/
def splitLine (text : Chars) : Chars × Chars :=
  let line := text.takeWhile (· ≠ '\n')
  (line, (text.drop line.length).drop 1)

/-- A line ends with a backslash that is not itself protected. -/
def isContinued (line : Chars) : Bool :=
  (line.reverse.takeWhile (· = '\\')).length % 2 = 1

/-- The lines of a document up to its delimiter, last first, and what follows
them.  A line behind one that is continued is no delimiter. -/
def documentLines (document : AwaitedDocument) :
    Nat → Bool → List Chars → Chars → List Chars × Chars
  | 0, _, before, text => (before, text)
  | _, _, before, [] => (before, [])
  | fuel + 1, mayEnd, before, text =>
    let (line, rest) := splitLine text
    let line := if document.stripsTabs && mayEnd then line.dropWhile (· = '\t') else line
    if mayEnd && line = document.delimiter then (before, rest)
    else
      let ended := if text.contains '\n' then line ++ ['\n'] else line
      documentLines document fuel (document.isLiteral || !isContinued line) (ended :: before) rest

/-- Read the documents that start at the current place. -/
def readDocuments (commands : Reader Command) : List AwaitedDocument → Reader Unit
  | [] => modify fun s => { s with awaited := [] }
  | document :: later => do
    let s ← get
    let (lines, rest) := documentLines document (s.rest.length + 1) true [] s.rest
    let body := lines.reverse.flatten
    set { s with rest, line := s.line + lines.length + 1 }
    let word ←
      if document.isLiteral then pure [Part.text body true]
      else readApart (wordParts commands (2 * body.length + 4) .document []) body
    modify fun s => { s with documents := (document.number, word) :: s.documents }
    readDocuments commands later

/-- Put a token back. -/
def putBack (token : Token) : Reader Unit :=
  modify fun s => { s with ahead := some token }

/-- The next token as it stands. -/
def plainToken (commands : Reader Command) : Reader Token := do
  let s ← get
  match s.ahead with
  | some token =>
    set { s with ahead := none }
    return token
  | none => freshToken commands

/-- Step over line ends in front of a token and read the documents behind
them. -/
def skipLineEnds (commands : Reader Command) : Nat → Token → Reader Token
  | 0, token => return token
  | fuel + 1, token => do
    match token with
    | .lineEnd =>
      readDocuments commands (← get).awaited
      skipLineEnds commands fuel (← plainToken commands)
    | token => return token

/-- What the reader of a token looks for. -/
structure Expectation where
  skipsLineEnds : Bool
  reserved : Bool
  aliases : Bool
  deriving DecidableEq, Repr

/-- The token that a word is where reserved words have their meaning. -/
def asReserved (dialect : Dialect) (token : Token) : Token :=
  match token with
  | .word parts =>
    match bareText? parts with
    | some name => if dialect.reservedWords.contains name then .reserved name else token
    | none => token
  | token => token

/-- The text that a word stands for, unless that text is being read. -/
def aliasText? (s : Cursor) (token : Token) : Option (Chars × Chars) :=
  match token with
  | .word parts =>
    match bareText? parts with
    | some name =>
      let isOpen := s.openAliases.any fun entry => entry.1 = name && entry.2 ≤ s.rest.length
      if isOpen then none else (s.aliases.lookup name).map fun text => (name, text)
    | none => none
  | _ => none

/-- The next token under an expectation. -/
def nextToken (commands : Reader Command) (e : Expectation) : Nat → Reader Token
  | 0 => return .textEnd
  | fuel + 1 => do
    let first ← plainToken commands
    let token ←
      if e.skipsLineEnds then skipLineEnds commands (← Reader.budget) first else pure first
    let s ← get
    let token := if e.reserved then asReserved s.dialect token else token
    match if e.aliases then aliasText? s token else none with
    | some (name, text) =>
      set
        { s with
          rest := text ++ s.rest
          openAliases := (name, s.rest.length) :: s.openAliases }
      nextToken commands e fuel
    | none => return token

end Shell

end TcpJournal
