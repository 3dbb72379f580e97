/-!
# Words and commands

A command line is a tree of commands over words.  A word is a sequence of
parts: text as it stands, and expansions whose value is only known when the
word is used.  Each part says whether it stood in quotes, because text in
quotes is neither split into fields nor matched against paths.
-/

namespace TcpJournal

namespace Shell

/-- A text of the shell, in which every character stands for a byte. -/
abbrev Chars := List Char

/-- When a parameter's value is replaced by a word, and what else happens. -/
inductive Replacement where
  | standIn
  | assign
  | complain
  | alternative
  deriving DecidableEq, Repr

/-- The end of a value from which a pattern is cut. -/
inductive CutEnd where
  | front
  | back
  deriving DecidableEq, Repr

/-- The language of a shell: the plain one, or the extended one with lists,
propositions and more forms of parameters. -/
inductive Dialect where
  | plain
  | extended
  deriving DecidableEq, Repr

/-- Which matches of a pattern in a value are exchanged for a text. -/
inductive MatchPlace where
  | first
  | everywhere
  | front
  | back
  deriving DecidableEq, Repr

/-- What happens to the letters of a value. -/
inductive CaseChange where
  | upper
  | lower
  | toggled
  deriving DecidableEq, Repr

mutual

/-- A piece of a word. -/
inductive Part where
  | text (content : List Char) (isQuoted : Bool)
  | parameter (name : List Char) (form : Form) (isQuoted : Bool)
  | element (name : List Char) (subscript : List Part) (form : Form) (isQuoted : Bool)
  | list (items : List (List Part))
  | channel (isOutput : Bool) (body : Command)
  | output (body : Command) (isQuoted : Bool)
  | arithmetic (expression : List Part) (isQuoted : Bool)

/-- What is made of a parameter's value. -/
inductive Form where
  | plain
  | size
  | replaced (how : Replacement) (alsoEmpty : Bool) (word : List Part)
  | cut (side : CutEnd) (longest : Bool) (pattern : List Part)
  | slice (offset : List Part) (isBounded : Bool) (length : List Part)
  | exchanged (place : MatchPlace) (pattern replacement : List Part)
  | recased (change : CaseChange) (everywhere : Bool) (pattern : List Part)
  | named
  | keys
  | startingNames
  | shown (letter : Char)
  | malformed

/-- A change to the descriptors of a command. -/
inductive Redirection where
  | read (descriptor : Nat) (target : List Part)
  | write (descriptor : Nat) (isForced : Bool) (target : List Part)
  | append (descriptor : Nat) (target : List Part)
  | readWrite (descriptor : Nat) (target : List Part)
  | duplicate (descriptor : Nat) (target : List Part)
  | document (descriptor : Nat) (number : Nat)
  | text (descriptor : Nat) (content : List Part)
  | writeBoth (appends : Bool) (target : List Part)

/-- A condition over words that are neither split nor matched against paths. -/
inductive Proposition where
  | word (content : List Part)
  | question (operator : List Char) (operand : List Part)
  | comparison (operator : List Char) (left right : List Part)
  | negated (body : Proposition)
  | both (left right : Proposition)
  | either (left right : Proposition)

/-- A command. -/
inductive Command where
  | nothing
  | simple (line : Nat) (assignments words : List (List Part)) (redirections : List Redirection)
  | pipeline (commands : List Command)
  | both (left right : Command)
  | either (left right : Command)
  | sequence (left right : Command)
  | negated (body : Command)
  | background (body : Command)
  | subshell (body : Command)
  | redirected (body : Command) (redirections : List Redirection)
  | branch (condition consequence alternative : Command)
  | loop (untilTrue : Bool) (condition body : Command)
  | forEach (name : List Char) (words : List (List Part)) (body : Command)
  | choice (subject : List Part) (clauses : List (List (List Part) × Command))
  | define (name : List Char) (body : Command)
  | proposition (condition : Proposition)
  | calculation (expression : List Part)
  | countedLoop (start goal next : List Part) (body : Command)

end

/-- A word: its parts from left to right. -/
abbrev Word := List Part

instance : Inhabited Command := ⟨.nothing⟩

instance : Inhabited Part := ⟨.text [] false⟩

/-- A letter or underscore, with which a name starts. -/
def startsName (c : Char) : Bool :=
  ('a' ≤ c && c ≤ 'z') || ('A' ≤ c && c ≤ 'Z') || c = '_'

/-- A letter, a digit, or an underscore. -/
def isNameChar (c : Char) : Bool :=
  startsName c || ('0' ≤ c && c ≤ '9')

/-- A text can be the name of a variable. -/
def isName (text : Chars) : Bool :=
  text.head?.any startsName && text.all isNameChar

/-- A text that starts as an assignment does, split at the equals sign. -/
def splitAssignment? (text : Chars) : Option (Chars × Chars) :=
  let name := text.takeWhile isNameChar
  match text.drop name.length with
  | '=' :: value => if isName name then some (name, value) else none
  | _ => none

/-- The text of a word without quotes and expansions. -/
def bareText? : Word → Option Chars
  | [.text content false] => some content
  | _ => none

/-- The words with a meaning of their own where a command may start. -/
def reservedWords : List Chars :=
  ["!", "case", "do", "done", "elif", "else", "esac", "fi", "for", "if", "in", "then", "until",
   "while", "\x7b", "\x7d"].map String.toList

/-- The words with a meaning of their own in a language. -/
def Dialect.reservedWords : Dialect → List Chars
  | .plain => Shell.reservedWords
  | .extended => Shell.reservedWords ++ ["[[", "function", "time"].map String.toList

/-- The commands that cannot be replaced by a function. -/
def specialCommands : List Chars :=
  [".", ":", "break", "continue", "eval", "exec", "exit", "export", "local", "readonly", "return",
   "set", "shift", "times", "trap", "unset"].map String.toList

end Shell

end TcpJournal
