import TcpJournal.Shell.Conversion
import TcpJournal.Shell.Rules.Syntax

/-!
# Tokens of scripts

A script is cut into tokens.  A slash starts a regular expression unless it
stands behind a value, which it divides.
-/

namespace TcpJournal

namespace Shell

namespace Rules

/-- A token. -/
inductive Token where
  | number (x : Binary64)
  | text (t : Chars)
  | regex (r : Regex)
  | name (n : Chars)
  | callName (n : Chars)
  | keyword (word : String)
  | builtin (word : String)
  | sign (text : String)
  | newline
  deriving DecidableEq, Repr

/-- A token and the line on which it stands. -/
structure PlacedToken where
  token : Token
  line : Nat
  deriving DecidableEq, Repr

/-- Why a script cannot be read. -/
structure ScriptError where
  line : Nat
  reason : Chars
  deriving DecidableEq, Repr

namespace Token

/-- The words with a meaning of their own. -/
def keywords : List String :=
  ["BEGIN", "END", "if", "else", "while", "for", "do", "break", "continue", "next", "nextfile",
   "exit", "return", "function", "delete", "in", "getline", "print", "printf"]

/-- The functions that every script has. -/
def builtins : List String :=
  ["length", "substr", "index", "split", "sub", "gsub", "match", "sprintf", "sin", "cos", "atan2",
   "exp", "log", "sqrt", "int", "rand", "srand", "tolower", "toupper", "system", "close", "fflush",
   "systime", "strftime", "mktime"]

/-- The signs, longer ones first. -/
def signs : List String :=
  ["&&", "||", "==", "!=", "<=", ">=", "++", "--", "+=", "-=", "*=", "/=", "%=", "^=", "!~", ">>",
   "\x7b", "\x7d", "(", ")", "[", "]", ",", ";", "+", "-", "*", "/", "%", "^", "!", "<", ">", "|",
   "?", ":", "~", "$", "="]

/-- How a token is shown in a report. -/
def shown : Token → Chars
  | number x => (x.whole?.map Decimal.ofInt).getD []
  | text t => '"' :: t ++ ['"']
  | regex _ => ['/']
  | name n | callName n => n
  | keyword word | builtin word | sign word => word.toList
  | newline => "end of line".toList

/-- A slash behind the token divides. -/
def endsValue : Token → Bool
  | number _ | text _ | regex _ | name _ => true
  | builtin word => word = "length"
  | sign s => [")", "]", "$", "++", "--"].contains s
  | callName _ | keyword _ | newline => false

end Token

namespace Scan

/-- The text of a literal behind its opening quote, and the rest behind the
closing one. -/
def literal : Chars → Option (Chars × Chars)
  | [] => none
  | '"' :: rest => some ([], rest)
  | '\n' :: _ => none
  | '\\' :: '\n' :: rest => literal rest
  | '\\' :: c :: rest => (literal rest).map fun (text, rest) => ('\\' :: c :: text, rest)
  | c :: rest => (literal rest).map fun (text, rest) => (c :: text, rest)

/-- A text with its escape sequences replaced; a backslash in front of any other
character stays. -/
def unescaped : Nat → Chars → Chars
  | 0, text => text
  | _, [] => []
  | fuel + 1, '\\' :: c :: rest =>
    if c = '"' then c :: unescaped fuel rest
    else if isOctal c then
      let (byte, rest) := octalByte 3 (c :: rest)
      byte :: unescaped fuel rest
    else
      match simpleEscape? c, if c = 'x' then hexByte? rest else none with
      | some d, _ => d :: unescaped fuel rest
      | none, some (byte, rest) => byte :: unescaped fuel rest
      | none, none => '\\' :: c :: unescaped fuel rest
  | fuel + 1, c :: rest => c :: unescaped fuel rest

/-- The text of a regular expression behind its opening slash, and the rest
behind the closing one; a slash may stand in a set. -/
def pattern : Bool → Chars → Option (Chars × Chars)
  | _, [] | _, '\n' :: _ => none
  | _, '\\' :: '/' :: rest => (pattern false rest).map fun (text, rest) => ('/' :: text, rest)
  | inSet, '\\' :: c :: rest =>
    (pattern inSet rest).map fun (text, rest) => ('\\' :: c :: text, rest)
  | false, '[' :: ']' :: rest =>
    (pattern true rest).map fun (text, rest) => ('[' :: ']' :: text, rest)
  | false, '[' :: '^' :: ']' :: rest =>
    (pattern true rest).map fun (text, rest) => ('[' :: '^' :: ']' :: text, rest)
  | false, '/' :: rest => some ([], rest)
  | inSet, c :: rest =>
    (pattern (c = '[' || (inSet && c ≠ ']')) rest).map fun (text, rest) => (c :: text, rest)

/-- The token of a word, in front of a text. -/
def ofWord (word rest : Chars) : Token :=
  let name_ := String.ofList word
  if Token.keywords.contains name_ then .keyword name_
  else if Token.builtins.contains name_ then .builtin name_
  else if rest.head? = some '(' then .callName word
  else .name word

/-- The number that digits spell is too great, or too close to zero. -/
def isOutside (x : Binary64) (digits : Chars) : Bool :=
  let mantissa := digits.takeWhile fun c => c ≠ 'e' && c ≠ 'E'
  let least : Binary64 := .ofBits 0x0010000000000000
  !x.isFinite || (x.isLess least && mantissa.any fun c => '1' ≤ c && c ≤ '9')

/-- The tokens of a script. -/
def scan : Nat → Nat → Bool → Chars → Except ScriptError (List PlacedToken)
  | 0, _, _, _ => .ok []
  | _, _, _, [] => .ok []
  | fuel + 1, line, divides, c :: rest =>
    let go (token : Token) (rest : Chars) (lines : Nat) : Except ScriptError (List PlacedToken) :=
      (scan fuel (line + lines) token.endsValue rest).map (⟨token, line⟩ :: ·)
    if c = ' ' || c = '\t' || c = '\x0d' then scan fuel line divides rest
    else if c = '\n' then go .newline rest 1
    else if c = '#' then scan fuel line divides (rest.dropWhile (· ≠ '\n'))
    else if c = '\\' then
      match rest with
      | '\n' :: rest => scan fuel (line + 1) divides rest
      | '\x0d' :: '\n' :: rest => scan fuel (line + 1) divides rest
      | _ => .error ⟨line, "unexpected character '\\'".toList⟩
    else if startsName c then
      let word := (c :: rest).takeWhile isNameChar
      let rest := (c :: rest).drop word.length
      go (ofWord word rest) rest 0
    else if Text.isDigit c || (c = '.' && rest.head?.any Text.isDigit) then
      match leadingDecimal? (c :: rest) with
      | some (x, after) =>
        let digits := (c :: rest).take (rest.length + 1 - after.length)
        if isOutside x digits then .error ⟨line, digits ++ " : decimal overflow".toList⟩
        else go (.number x) after 0
      | none => .error ⟨line, "unexpected character".toList⟩
    else if c = '"' then
      match literal rest with
      | some (text, after) => go (.text (unescaped (text.length + 1) text)) after 0
      | none => .error ⟨line, "runaway string constant \"".toList ++ rest.takeWhile (· ≠ '\n')⟩
    else if c = '/' && !divides then
      match pattern false rest with
      | none => .error ⟨line, "runaway regular expression /".toList ++ rest.takeWhile (· ≠ '\n')⟩
      | some (text, after) =>
        match Regex.parse .pattern text with
        | .ok r => go (.regex r) after 0
        | .error _ => .error ⟨line, "regular expression compile failed".toList⟩
    else
      match Token.signs.find? fun sign => sign.toList.isPrefixOf (c :: rest) with
      | some sign => go (.sign sign) ((c :: rest).drop sign.length) 0
      | none => .error ⟨line, "unexpected character '".toList ++ [c, '\'']⟩

end Scan

end Rules

end Shell

end TcpJournal
