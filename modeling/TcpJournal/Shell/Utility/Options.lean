import TcpJournal.Shell.Builtin.Print
import TcpJournal.Shell.Program

/-!
# Options of programs

Programs take options of one letter, several of which may share a word, and
long ones; a value stands in the same word or in the next.  Options may stand
among the operands unless a program hands its operands on.
-/

namespace TcpJournal

namespace Shell

/-- An option as it is given. -/
structure GivenOption where
  letter : Char
  value : Chars
  deriving DecidableEq, Repr

/-- The options of a program: its letters, of which those with a colon take a
value and those with a question mark one that stands in the same word, and its long
names, each with the letter that it stands for. -/
structure OptionTable where
  letters : String
  longNames : List (String × Char)
  permutes : Bool

/-- Options and operands of a program. -/
structure Given where
  options : List GivenOption
  operands : List Chars
  deriving DecidableEq, Repr

namespace Given

/-- An option is given. -/
def has (g : Given) (letter : Char) : Bool :=
  g.options.any fun o => o.letter = letter

/-- The last value of an option. -/
def value? (g : Given) (letter : Char) : Option Chars :=
  (g.options.reverse.find? fun o => o.letter = letter).map GivenOption.value

/-- The letter of the last option among some. -/
def last? (g : Given) (letters : String) : Option Char :=
  (g.options.reverse.find? fun o => letters.toList.contains o.letter).map GivenOption.letter

end Given

namespace OptionTable

/-- A letter is known, and whether it takes a value. -/
def takesValue? (table : OptionTable) (letter : Char) : Option Bool :=
  let letters := table.letters.toList
  let place := letters.idxOf letter
  if letter = ':' || letter = '?' || place ≥ letters.length then none
  else some (letters[place + 1]? = some ':')

/-- A letter may take a value from its own word. -/
def mayTakeValue (table : OptionTable) (letter : Char) : Bool :=
  let letters := table.letters.toList
  letters[letters.idxOf letter + 1]? = some '?'

/-- The options in a word of letters; the last of them may take its value from
the next word. -/
def readLetters (table : OptionTable) : Chars → List Chars →
    Except Chars (List GivenOption × List Chars)
  | [], rest => .ok ([], rest)
  | letter :: letters, rest =>
    match table.takesValue? letter with
    | none => .error ("invalid option -- '".toList ++ [letter, '\''])
    | some false =>
      if table.mayTakeValue letter then .ok ([⟨letter, letters⟩], rest)
      else do
        let (more, rest) ← readLetters table letters rest
        return (⟨letter, []⟩ :: more, rest)
    | some true =>
      match letters, rest with
      | [], [] => .error ("option requires an argument -- '".toList ++ [letter, '\''])
      | [], value :: rest => .ok ([⟨letter, value⟩], rest)
      | letters, rest => .ok ([⟨letter, letters⟩], rest)

/-- The option of a long name, which may be cut short. -/
def readLong (table : OptionTable) (text : Chars) (rest : List Chars) :
    Except Chars (List GivenOption × List Chars) :=
  let name := text.takeWhile (· ≠ '=')
  let attached := if name.length < text.length then some (text.drop (name.length + 1)) else none
  let exact := table.longNames.find? fun entry => entry.1.toList = name
  let begun := table.longNames.filter fun entry => name.isPrefixOf entry.1.toList
  let found := match exact with
    | some entry => some entry
    | none => begun.head?
  let isAmbiguous : Bool := exact.isNone && (begun.map Prod.snd).eraseDups.length > 1
  match found with
  | none => .error ("unrecognized option '--".toList ++ text ++ ['\''])
  | some (long, letter) =>
    if isAmbiguous then .error ("option '--".toList ++ text ++ "' is ambiguous".toList)
    else
    if table.takesValue? letter = some true then
      match attached, rest with
      | some value, rest => .ok ([⟨letter, value⟩], rest)
      | none, value :: rest => .ok ([⟨letter, value⟩], rest)
      | none, [] => .error ("option '--".toList ++ long.toList ++ "' requires an argument".toList)
    else if attached.isSome && !table.mayTakeValue letter then
      .error ("option '--".toList ++ long.toList ++ "' doesn't allow an argument".toList)
    else .ok ([⟨letter, attached.getD []⟩], rest)

/-- Read the words of a program. -/
def readFrom (table : OptionTable) : Nat → List Chars → Except Chars Given
  | 0, words => .ok ⟨[], words⟩
  | _, [] => .ok ⟨[], []⟩
  | fuel + 1, word :: rest =>
    let go (options : List GivenOption) (rest : List Chars) : Except Chars Given := do
      let more ← readFrom table fuel rest
      return { more with options := options ++ more.options }
    match word with
    | ['-', '-'] => .ok ⟨[], rest⟩
    | '-' :: '-' :: long =>
      match table.readLong long rest with
      | .error e => .error e
      | .ok (options, rest) => go options rest
    | '-' :: letter :: letters =>
      match table.readLetters (letter :: letters) rest with
      | .error e => .error e
      | .ok (options, rest) => go options rest
    | word =>
      if table.permutes then do
        let more ← readFrom table fuel rest
        return { more with operands := word :: more.operands }
      else .ok ⟨[], word :: rest⟩

/-- Read the words of a program. -/
def read (table : OptionTable) (words : List Chars) : Except Chars Given :=
  table.readFrom (words.length + 1) words

end OptionTable

namespace Program

/-- A program over its options and operands; it can also be asked for help. -/
def withOptions (name : String) (failure : Nat) (table : OptionTable)
    (body : Given → Steps Nat) : Program := fun words => do
  let before := if table.permutes then words.takeWhile (· ≠ ['-', '-'])
    else words.takeWhile fun word => word.head? = some '-' && word ≠ ['-', '-']
  if before.any fun word => word = "--help".toList || word = "--version".toList then
    output name ("Usage: ".toList ++ name.toList ++ " [OPTION]... [FILE]...\n".toList)
  else
    match table.read words with
    | .error reason =>
      report name reason
      Steps.complain ("Try '".toList ++ name.toList ++ " --help' for more information.\n".toList)
      return failure
    | .ok given => body given

/-- The texts of the files that are named, or of the standard input; the flag
says whether one of them could not be read. -/
def inputs (name : String) (files : List Chars) : Steps (List (Chars × Chars) × Bool) := do
  let files := if files = [] then [['-']] else files
  let found ← files.mapM fun file => do
    let result ← if file = ['-'] then Steps.read 0 none else Steps.readFile file
    match result with
    | .ok text => return some (file, text)
    | .error e =>
      report name (file ++ ": ".toList ++ e.message.toList)
      return none
  return (found.filterMap fun found => found, found.any fun found => found.isNone)

/-- A program that makes a text of all its inputs. -/
def filter (name : String) (files : List Chars) (make : Chars → Chars) : Steps Nat := do
  let (texts, failed) ← inputs name files
  let status ← output name (make (texts.flatMap Prod.snd))
  return if failed then 1 else status

/-- The lines of a text without their ends; the flag says whether the last one
was ended. -/
def linesBy (lineEnd : Char) (text : Chars) : List Chars × Bool :=
  let (last, lines) := text.foldr
    (fun c (line, lines) => if c = lineEnd then ([], line :: lines) else (c :: line, lines))
    ([], [])
  let all := last :: lines
  if all.getLast? = some [] then (all.dropLast, true) else (all, false)

/-- The lines of a text that newlines end. -/
def linesOf (text : Chars) : List Chars × Bool := linesBy '\n' text

/-- Lines with their ends. -/
def ofLines (lines : List Chars) : Chars :=
  lines.flatMap fun line => line ++ ['\n']

/-- A number with a letter that multiplies it. -/
def size? (text : Chars) : Option Nat :=
  let digits := text.takeWhile Text.isDigit
  let factor? : Option Nat :=
    match String.ofList (text.drop digits.length) with
    | "" | "c" => some 1
    | "w" => some 2
    | "b" => some 512
    | "K" | "k" | "KiB" => some 1024
    | "kB" | "KB" => some 1000
    | "M" | "MiB" => some (1024 ^ 2)
    | "MB" => some (1000 ^ 2)
    | "G" | "GiB" => some (1024 ^ 3)
    | _ => none
  if digits = [] then none else factor?.map (Decimal.value digits * ·)

/-- The number that a text is. -/
def number? (text : Chars) : Option Nat :=
  if text ≠ [] && text.all Text.isDigit then some (Decimal.value text) else none

end Program

end Shell

end TcpJournal
