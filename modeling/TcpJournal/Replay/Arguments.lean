import TcpJournal.Text

/-!
# Command line arguments

Options take a value, in the same word or in the next one; a word that starts
with a hyphen is no value, except the hyphen alone.  Nothing may be given twice,
there are no other arguments, and a user is given only together with a command.
Requests for help or for the version are left out, as are the texts that tell what
is wrong with a command line.
-/

namespace TcpJournal

/-- The command line of a replay. -/
structure Arguments where
  format : Option String
  config : Option String
  command : Option String
  user : Option String
  input : Option String
  listKeywords : Bool
  verbose : Bool
  deriving DecidableEq, Repr

namespace Arguments

/-- Nothing is given. -/
def none : Arguments := ⟨.none, .none, .none, .none, .none, false, false⟩

/-- The options that take a value. -/
inductive ValueOption where
  | format
  | config
  | command
  | user
  | input
  deriving DecidableEq, Repr

/-- The option of a long name. -/
def longOption? : String → Option ValueOption
  | "format" => some .format
  | "config" => some .config
  | "exec" => some .command
  | "user" => some .user
  | "input" => some .input
  | _ => .none

/-- The option of a letter. -/
def shortOption? : Char → Option ValueOption
  | 'f' => some .format
  | 'c' => some .config
  | 'x' => some .command
  | 'u' => some .user
  | 'i' => some .input
  | _ => .none

/-- A value given for the first time. -/
def first (old : Option String) (value : String) : Option (Option String) :=
  if old.isSome then .none else some (some value)

/-- Arguments with one more option, unless it is repeated or a path is empty. -/
def set? (a : Arguments) (option : ValueOption) (value : String) : Option Arguments :=
  match option with
  | .format => (first a.format value).map fun v => { a with format := v }
  | .command => (first a.command value).map fun v => { a with command := v }
  | .user => (first a.user value).map fun v => { a with user := v }
  | .config =>
    if value = "" then .none else (first a.config value).map fun v => { a with config := v }
  | .input =>
    if value = "" then .none else (first a.input value).map fun v => { a with input := v }

/-- A word can be the value of the option before it. -/
def isValue (word : String) : Bool :=
  word = "-" || word.toList.head? ≠ some '-'

/-- One option, whose value may be the next word, and the words after it. -/
def option? (a : Arguments) (option : ValueOption) (attached : Option String)
    (rest : List String) : Option (Arguments × List String) :=
  match attached, rest with
  | some value, rest => (a.set? option value).map fun a => (a, rest)
  | .none, value :: rest =>
    if isValue value then (a.set? option value).map fun a => (a, rest) else .none
  | .none, [] => .none

/-- The first argument of a command line, and the words after it. -/
def word? (a : Arguments) (word : String) (rest : List String) :
    Option (Arguments × List String) :=
  match word.toList with
  | ['-', '-'] => if rest = [] then some (a, []) else .none
  | '-' :: '-' :: text =>
    let (name, attached) :=
      match Text.splitAt? '=' text with
      | some (name, value) => (String.ofList name, some (String.ofList value))
      | .none => (String.ofList text, .none)
    match longOption? name, attached with
    | some option, attached => option? a option attached rest
    | .none, some _ => .none
    | .none, .none =>
      if name = "list-keywords" && !a.listKeywords then some ({ a with listKeywords := true }, rest)
      else if name = "verbose" && !a.verbose then some ({ a with verbose := true }, rest)
      else .none
  | '-' :: letter :: text =>
    (shortOption? letter).bind fun option =>
      match text with
      | [] => option? a option .none rest
      | '=' :: value => option? a option (some (String.ofList value)) rest
      | value => option? a option (some (String.ofList value)) rest
  | _ => .none

/-- All words of a command line, one or two at a time. -/
def words? : Nat → Arguments → List String → Option Arguments
  | _, a, [] => some a
  | 0, _, _ :: _ => .none
  | fuel + 1, a, word :: rest =>
    (word? a word rest).bind fun (a, rest) => words? fuel a rest

/-- The arguments of a command line, unless it is wrong. -/
def parse? (words : List String) : Option Arguments :=
  (words? words.length none words).filter fun a => a.user.isNone || a.command.isSome

end Arguments

end TcpJournal
