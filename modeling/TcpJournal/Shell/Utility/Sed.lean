import TcpJournal.Shell.Conversion
import TcpJournal.Shell.Regex
import TcpJournal.Shell.Utility.Options
import TcpJournal.Shell.Utility.VersionName

/-!
# Editing lines by a script

A script is a row of instructions.  Each line of the input goes through them
from the first to the last, as far as their addresses choose it; instructions
replace parts of it, join it with others, keep it for later, or print it.
-/

namespace TcpJournal

namespace Shell

namespace Sed

/-- A line or lines of the input; an empty expression stands for the last one
that was used. -/
inductive Address where
  | number (n : Nat)
  | last
  | regex (r : Option Regex)
  | every (first step : Nat)
  deriving DecidableEq, Repr

/-- The end of a range of lines. -/
inductive RangeEnd where
  | address (a : Address)
  | more (count : Nat)
  | multiple (n : Nat)
  deriving DecidableEq, Repr

/-- How the case of replaced text changes. -/
inductive CaseChange where
  | upper
  | lower
  | upperNext
  | lowerNext
  | stop
  deriving DecidableEq, Repr

/-- A piece of a replacement. -/
inductive ReplacementPart where
  | text (chars : List Char)
  | group (index : Nat)
  | changeCase (change : CaseChange)
  deriving DecidableEq, Repr

/-- A substitution. -/
structure Substitution where
  pattern : Option Regex
  replacement : List ReplacementPart
  first : Nat
  hasFirst : Bool
  all : Bool
  prints : Bool
  file : Option (List Char)
  deriving DecidableEq, Repr

/-- What an instruction does. -/
inductive Act where
  | openBlock
  | closeBlock
  | label (name : List Char)
  | substitute (s : Substitution)
  | transliterate (pairs : List (Char × Char))
  | branch (name : List Char)
  | branchIf (name : List Char) (substituted : Bool)
  | append (text : List Char)
  | insert (text : List Char)
  | change (text : List Char)
  | readFile (name : List Char)
  | readLine (name : List Char)
  | writeFile (name : List Char) (firstLine : Bool)
  | quit (status : Nat) (prints : Bool)
  | list (width : Option Nat)
  | letter (c : Char)
  deriving DecidableEq, Repr

/-- An instruction with the lines that it is for. -/
structure Instruction where
  start : Option Address
  stop : Option RangeEnd
  isNegated : Bool
  act : Act
  deriving DecidableEq, Repr

/-- Where a character of an expression stands: outside of sets, at the start of
one, behind the sign that excludes its members, among them, or in the name of a
class. -/
inductive SetPlace where
  | outside
  | start
  | first
  | members
  | name (mark : Char)
  | nameEnd
  deriving DecidableEq, Repr

/-- The place behind a character. -/
def SetPlace.next (p : SetPlace) (c : Char) (rest : Chars) : SetPlace :=
  let amongMembers : SetPlace :=
    match c, rest.head? with
    | '[', some mark => if mark = ':' || mark = '.' || mark = '=' then .name mark else .members
    | _, _ => .members
  match p with
  | .outside => if c = '[' then .start else .outside
  | .start => if c = '^' then .first else amongMembers
  | .first => amongMembers
  | .members => if c = ']' then .outside else amongMembers
  | .name mark => if c = mark && rest.head? = some ']' then .nameEnd else .name mark
  | .nameEnd => .members

/-- The text up to a delimiter; a protected delimiter stands for itself, and in
an expression a protected `n` for a line end and a delimiter in a set for
itself. -/
def delimited (delimiter : Char) (isRegex : Bool) : SetPlace → Chars → Option (Chars × Chars)
  | _, [] => none
  | .outside, '\\' :: c :: rest =>
    (delimited delimiter isRegex .outside rest).map fun (text, after) =>
      if c = delimiter && (isRegex || c ≠ '&') then (c :: text, after)
      else if isRegex && c = 'n' then ('\n' :: text, after)
      else ('\\' :: c :: text, after)
  | place, '\\' :: 'n' :: rest =>
    (delimited delimiter isRegex (place.next 'n' rest) rest).map fun (text, after) =>
      ('\n' :: text, after)
  | place, c :: rest =>
    if c = delimiter && place = .outside then some ([], rest)
    else if c = '\n' then none
    else
      let place := if isRegex then place.next c rest else .outside
      (delimited delimiter isRegex place rest).map fun (text, after) => (c :: text, after)

/-- The number of a byte in digits of a base, at most so many of them, and what follows
it; without digits the letter in front of them stands for itself. -/
def numbered (letter : Char) (base most : Nat) (text : Chars) : Char × Chars :=
  let digits := (text.take most).takeWhile fun c => (Text.hexValue? c).any (· < base)
  if digits = [] then (letter, text)
  else
    let n := digits.foldl (fun n c => base * n + (Text.hexValue? c).getD 0) 0
    (Char.ofNat (n % 256), text.drop digits.length)

/-- The character of an escape of a control character or of a number behind a
backslash, and what follows it. -/
def controlEscape? (text : Chars) : Option (Char × Chars) :=
  match text with
  | 't' :: rest => some ('\t', rest)
  | 'f' :: rest => some ('\x0c', rest)
  | 'v' :: rest => some ('\x0b', rest)
  | 'a' :: rest => some ('\x07', rest)
  | 'r' :: rest => some ('\x0d', rest)
  | 'x' :: rest => some (numbered 'x' 16 2 rest)
  | 'o' :: rest => some (numbered 'o' 8 3 rest)
  | 'd' :: rest => some (numbered 'd' 10 3 rest)
  | 'c' :: c :: rest => some (Char.ofNat ((upperCase c).toNat ^^^ 64), rest)
  | _ => none

/-- A text in which escapes of control characters are those characters; in what is put
in, a character that would have a meaning there is protected. -/
def withControls (isReplacement : Bool) : Nat → Chars → Chars
  | 0, text => text
  | _, [] => []
  | fuel + 1, '\\' :: rest =>
    match controlEscape? rest with
    | some (c, rest) =>
      (if isReplacement && (c = '&' || c = '\\') then ['\\', c] else [c]) ++
        withControls isReplacement fuel rest
    | none => '\\' :: rest.take 1 ++ withControls isReplacement fuel (rest.drop 1)
  | fuel + 1, c :: rest => c :: withControls isReplacement fuel rest

/-- The expression that a text spells, or none for the last one used. -/
def regex (isExtended : Bool) (ignoresCase byLine : Bool) (text : Chars) :
    Except Chars (Option Regex) :=
  if text = [] then
    if ignoresCase || byLine then .error "cannot specify modifiers on empty regexp".toList
    else .ok none
  else
    let text := withControls false text.length text
    let parsed := Regex.parse (if isExtended then .extended else .strictBasic) text
    (parsed.bind Regex.unlessMisspelt).map fun r => some { r with ignoresCase, byLine }

/-- Blanks at the front of a text are left out. -/
def skipBlanks (text : Chars) : Chars :=
  text.dropWhile fun c => c = ' ' || c = '\t'

/-- The letters behind an address that is an expression. -/
def regexFlags : Chars → Bool × Bool × Chars
  | 'I' :: rest =>
    let (_, m, rest) := regexFlags rest
    (true, m, rest)
  | 'M' :: rest =>
    let (i, _, rest) := regexFlags rest
    (i, true, rest)
  | rest => (false, false, rest)

/-- The address at the front of a text, if there is one. -/
def address (isExtended : Bool) (text : Chars) : Except Chars (Option (Address × Chars)) :=
  let expression (delimiter : Char) (rest : Chars) : Except Chars (Option (Address × Chars)) :=
    match delimited delimiter true .outside rest with
    | none => .error "unterminated address regex".toList
    | some (source, rest) =>
      let (ignoresCase, byLine, rest) := regexFlags rest
      (regex isExtended ignoresCase byLine source).map fun r => some (.regex r, rest)
  match text with
  | '$' :: rest => .ok (some (.last, rest))
  | '/' :: rest => expression '/' rest
  | '\\' :: c :: rest => expression c rest
  | c :: _ =>
    if Text.isDigit c then
      let digits := text.takeWhile Text.isDigit
      let first := Decimal.value digits
      match text.drop digits.length with
      | '~' :: rest =>
        let digits := rest.takeWhile Text.isDigit
        let step := Decimal.value digits
        .ok (some (if step = 0 then .number first else .every first step,
          rest.drop digits.length))
      | rest => .ok (some (.number first, rest))
    else .ok none
  | [] => .ok none

/-- The end of a range at the front of a text. -/
def rangeEnd (isExtended : Bool) (text : Chars) : Except Chars (RangeEnd × Chars) :=
  let text := skipBlanks text
  let counted (make : Nat → RangeEnd) (rest : Chars) : Except Chars (RangeEnd × Chars) :=
    let digits := rest.takeWhile Text.isDigit
    .ok (make (Decimal.value digits), rest.drop digits.length)
  match text with
  | '+' :: rest => counted .more rest
  | '~' :: rest => counted .multiple rest
  | text =>
    match address isExtended text with
    | .error e => .error e
    | .ok (some (a, rest)) => .ok (.address a, rest)
    | .ok none => .error "unexpected ','".toList

/-- The pieces of a replacement. -/
def replacementParts : Nat → Chars → List ReplacementPart
  | 0, _ => []
  | _, [] => []
  | fuel + 1, '&' :: rest => .group 0 :: replacementParts fuel rest
  | fuel + 1, '\\' :: c :: rest =>
    let part : ReplacementPart :=
      if Text.isDigit c then .group (Decimal.digitValue c)
      else
        match c with
        | 'n' => .text ['\n']
        | 'U' => .changeCase .upper
        | 'L' => .changeCase .lower
        | 'u' => .changeCase .upperNext
        | 'l' => .changeCase .lowerNext
        | 'E' => .changeCase .stop
        | c => .text [c]
    part :: replacementParts fuel rest
  | fuel + 1, c :: rest => .text [c] :: replacementParts fuel rest

/-- What is said when the name of a file is missing. -/
def missingFile : Chars := "missing filename in r/R/w/W commands".toList

/-- The flags behind a substitution. -/
def substitutionFlags (isExtended : Bool) (source : Chars) (s : Substitution)
    (ignoresCase byLine : Bool) : Nat → Chars → Except Chars (Substitution × Chars)
  | 0, _ => .error "unknown option to 's'".toList
  | fuel + 1, text =>
    let finish (rest : Chars) : Except Chars (Substitution × Chars) :=
      (regex isExtended ignoresCase byLine source).map fun pattern => ({ s with pattern }, rest)
    let again (what : String) : Except Chars (Substitution × Chars) :=
      .error ("multiple ".toList ++ what.toList ++ " to 's' command".toList)
    match text with
    | 'g' :: rest =>
      if s.all then again "'g' options"
      else
      substitutionFlags isExtended source { s with all := true } ignoresCase byLine fuel rest
    | 'p' :: rest =>
      if s.prints then again "'p' options"
      else
      substitutionFlags isExtended source { s with prints := true } ignoresCase byLine fuel rest
    | 'i' :: rest | 'I' :: rest => substitutionFlags isExtended source s true byLine fuel rest
    | 'm' :: rest | 'M' :: rest => substitutionFlags isExtended source s ignoresCase true fuel rest
    | 'w' :: rest =>
      let name := (skipBlanks rest).takeWhile (· ≠ '\n')
      if name = [] then .error missingFile
      else
        (regex isExtended ignoresCase byLine source).map fun pattern =>
          ({ s with pattern, file := some name }, (skipBlanks rest).drop name.length)
    | c :: _ =>
      if Text.isDigit c then
        let digits := text.takeWhile Text.isDigit
        if Decimal.value digits = 0 then
          .error "number option to 's' command may not be zero".toList
        else if s.hasFirst then again "number options"
        else
          substitutionFlags isExtended source
            { s with first := Decimal.value digits, hasFirst := true } ignoresCase byLine fuel
            (text.drop digits.length)
      else if c = ';' || c = '\n' || c = '\x7d' || c = '#' || c = ' ' || c = '\t' then finish text
      else .error "unknown option to 's'".toList
    | [] => finish []

/-- The text of an instruction that adds text: what stands behind it on the
line, or on the next lines as long as each is continued. -/
def addedText (text : Chars) : Chars × Chars :=
  let text := skipBlanks text
  let (text, isOnLine) := match text with
    | '\\' :: '\n' :: rest => (rest, false)
    | '\\' :: rest =>
      match skipBlanks rest with
      | '\n' :: more => (more, false)
      | _ => (rest, true)
    | text => (text, true)
  let rec go : Chars → Chars × Chars
    | ['\\'] => (['\n'], [])
    | '\\' :: c :: rest =>
      let (more, after) := go rest
      (((simpleEscape? c).filter fun _ => c ≠ 'b').getD c :: more, after)
    | '\n' :: rest => (['\n'], rest)
    | c :: rest =>
      let (more, after) := go rest
      (c :: more, after)
    | [] => (['\n'], [])
  if isOnLine && text = [] then ([], []) else go text

/-- The characters of a transliteration. -/
def transliterationChars : Chars → Chars
  | '\\' :: 'n' :: rest => '\n' :: transliterationChars rest
  | '\\' :: '\\' :: rest => '\\' :: transliterationChars rest
  | c :: rest => c :: transliterationChars rest
  | [] => []

/-- A name up to the end of a command. -/
def labelName (text : Chars) : Chars × Chars :=
  let text := skipBlanks text
  let name := text.takeWhile fun c => c ≠ '\n' && c ≠ ';' && c ≠ ' ' && c ≠ '\t' && c ≠ '\x7d'
  (name, text.drop name.length)

/-- What an instruction does, and the text behind it. -/
def act (isExtended : Bool) (text : Chars) : Except Chars (Act × Chars) :=
  match text with
  | [] => .error "missing command".toList
  | c :: rest =>
    match c with
    | '\x7b' => .ok (.openBlock, rest)
    | '\x7d' => .ok (.closeBlock, rest)
    | ':' =>
      let text := skipBlanks rest
      let name := text.takeWhile fun c => c ≠ '\n' && c ≠ ';' && c ≠ ' '
      if name = [] then .error "\":\" lacks a label".toList
      else .ok (.label name, text.drop name.length)
    | 's' =>
      match rest with
      | [] => .error "unterminated 's' command".toList
      | delimiter :: rest =>
        match delimited delimiter true .outside rest with
        | none => .error "unterminated 's' command".toList
        | some (source, rest) =>
          match delimited delimiter false .outside rest with
          | none => .error "unterminated 's' command".toList
          | some (replacement, rest) => do
            let parts := replacementParts (4 * replacement.length + 1)
              (withControls true replacement.length replacement)
            let (s, rest) ← substitutionFlags isExtended source
              ⟨none, parts, 1, false, false, false, none⟩ false false (rest.length + 1) rest
            let groups := (s.pattern.map Regex.groupCount).getD 9
            let bad := parts.find? fun part => match part with
              | .group n => n > groups
              | _ => false
            match bad with
            | some (.group n) =>
              .error
                ("invalid reference \\".toList ++ Decimal.digits n ++ " on 's' command's RHS".toList)
            | _ => return (.substitute s, rest)
    | 'y' =>
      match rest with
      | [] => .error "unterminated 'y' command".toList
      | delimiter :: rest =>
        match delimited delimiter false .outside rest with
        | none => .error "unterminated 'y' command".toList
        | some (source, rest) =>
          match delimited delimiter false .outside rest with
          | none => .error "unterminated 'y' command".toList
          | some (target, rest) =>
            let source := transliterationChars (withControls true source.length source)
            let target := transliterationChars (withControls true target.length target)
            if source.length ≠ target.length then
              .error "strings for 'y' command are different lengths".toList
            else .ok (.transliterate (source.zip target).reverse, rest)
    | 'b' =>
      let (name, rest) := labelName rest
      .ok (.branch name, rest)
    | 't' | 'T' =>
      let (name, rest) := labelName rest
      .ok (.branchIf name (c = 't'), rest)
    | 'a' | 'i' | 'c' =>
      if skipBlanks rest = [] then .error "expected \\ after 'a', 'c' or 'i'".toList
      else
        let (added, after) := addedText rest
        let added := withControls false added.length added
        .ok (if c = 'a' then .append added else if c = 'i' then .insert added else .change added,
          after)
    | 'r' | 'R' | 'w' | 'W' =>
      let text := skipBlanks rest
      let name := text.takeWhile (· ≠ '\n')
      if name = [] then .error missingFile
      else
        let act : Act :=
          match c with
          | 'r' => .readFile name
          | 'R' => .readLine name
          | c => .writeFile name (c = 'W')
        .ok (act, text.drop name.length)
    | 'q' | 'Q' =>
      let text := skipBlanks rest
      let digits := text.takeWhile Text.isDigit
      .ok (.quit (Decimal.value digits) (c = 'q'), text.drop digits.length)
    | 'v' =>
      let (version, rest) := labelName rest
      if VersionName.compare version "4.9".toList = Ordering.gt then
        .error "expected newer version of sed".toList
      else .ok (.letter 'v', rest)
    | 'l' =>
      let text := skipBlanks rest
      let digits := text.takeWhile Text.isDigit
      .ok (.list (if digits = [] then none else some (Decimal.value digits)),
        text.drop digits.length)
    | c =>
      if "=dDgGhHnNpPxzF".toList.contains c then .ok (.letter c, rest)
      else .error ("unknown command: '".toList ++ [c, '\''])

/-- The instructions of a script. -/
def instructions (isExtended : Bool) : Nat → Nat → Chars → Except Chars (List Instruction)
  | 0, _, _ => .ok []
  | fuel + 1, depth, text =>
    let text := text.dropWhile fun c => c = ' ' || c = '\t' || c = '\n' || c = ';'
    match text with
    | [] => if depth > 0 then .error "unmatched '\x7b'".toList else .ok []
    | '#' :: rest => instructions isExtended fuel depth (rest.dropWhile (· ≠ '\n'))
    | text => do
      let (start, rest) ← match ← address isExtended text with
        | some (a, rest) => pure (some a, skipBlanks rest)
        | none => pure (none, text)
      let isBeforeFirst : Bool := start = some (.number 0)
      let (stop, rest) ← match start, rest with
        | some _, ',' :: rest => do
          let (e, rest) ← rangeEnd isExtended rest
          pure (some e, skipBlanks rest)
        | _, rest => pure (none, rest)
      let isUntilMatch : Bool := match stop with
        | some (.address (.regex _)) => true
        | _ => false
      if isBeforeFirst && !isUntilMatch then .error "invalid usage of line address 0".toList
      let (isNegated, rest) := match rest with
        | '!' :: rest => (true, skipBlanks rest)
        | rest => (false, rest)
      if isNegated && rest.head? = some '!' then .error "multiple '!'s".toList
      let (act, rest) ← act isExtended rest
      match act with
      | .quit .. => if stop.isSome then .error "command only uses one address".toList
      | .label _ => if start.isSome then .error ": doesn't want any addresses".toList
      | _ => pure ()
      let depth ← match act with
        | .openBlock => pure (depth + 1)
        | .closeBlock => if depth = 0 then .error "unexpected '\x7d'".toList else pure (depth - 1)
        | _ => pure depth
      let after := skipBlanks rest
      let needsEnd : Bool := match act with
        | .openBlock | .append _ | .insert _ | .change _ | .label _ | .branch _
        | .branchIf _ _ => false
        | _ => true
      match needsEnd, after with
      | true, c :: _ =>
        if c = ';' || c = '\n' || c = '\x7d' || c = '#' then
          return ⟨start, stop, isNegated, act⟩ :: (← instructions isExtended fuel depth after)
        else .error "extra characters after command".toList
      | _, after =>
        return ⟨start, stop, isNegated, act⟩ :: (← instructions isExtended fuel depth after)

/-- How far a range of lines has come; one that starts at a numbered line is
closed at its end. -/
inductive RangeState where
  | outside
  | inside
  | untilLine (n : Nat)
  | closed
  deriving DecidableEq, Repr

/-- A file to be edited: its lines, and whether the last one was ended. -/
structure Segment where
  name : Chars
  lines : List Chars
  isEnded : Bool
  deriving DecidableEq, Repr

/-- What is written to a file. -/
structure Draft where
  written : Chars
  lacksEnd : Bool
  deriving DecidableEq, Repr

/-- How an editor works: quietly, with files apart from one another, each
perhaps in its place, with ends of lines of its own, and with a width for lines
that are listed. -/
structure Manner where
  quiet : Bool
  separates : Bool
  inPlace : Bool
  lineEnd : Char
  width : Nat
  deriving DecidableEq, Repr

/-- An editor at work. -/
structure Editor where
  manner : Manner
  pattern : Chars
  hold : Chars
  number : Nat
  file : Chars
  later : List Chars
  lastIsEnded : Bool
  segments : List Segment
  isUnended : Bool
  holdIsUnended : Bool
  queue : List Chars
  output : Draft
  finished : List (Chars × Chars)
  files : List (Chars × Draft)
  sources : List (Chars × Chars)
  unread : List (Chars × Chars)
  firstRanges : Array RangeState
  ranges : Array RangeState
  hasSubstituted : Bool
  lastRegex : Option Regex
  status : Nat
  failure : Option Chars
  isOver : Bool

/-- A draft with a text behind the end that the last line may lack. -/
def Draft.put (d : Draft) (lineEnd : Char) (text : Chars) : Draft :=
  ⟨text.reverse ++ (if d.lacksEnd then [lineEnd] else []) ++ d.written, false⟩

/-- A draft with a line, which may lack its end. -/
def Draft.putLine (d : Draft) (lineEnd : Char) (line : Chars) (isUnended : Bool) : Draft :=
  if isUnended then { d.put lineEnd line with lacksEnd := true }
  else d.put lineEnd (line ++ [lineEnd])

namespace Editor

/-- The file that is the standard output. -/
def standardOutput : Chars := "/dev/stdout".toList

/-- The end of lines. -/
def lineEnd (e : Editor) : Char := e.manner.lineEnd

/-- Write a text behind the end that the last line may lack. -/
def put (e : Editor) (text : Chars) : Editor :=
  { e with output := e.output.put e.lineEnd text }

/-- Write a text of lines that a newline ends. -/
def putText (e : Editor) (text : Chars) : Editor :=
  e.put (if text.getLast? = some '\n' then text.dropLast ++ [e.lineEnd] else text)

/-- Write a line; the last one has an end only if it was read with one. -/
def putLine (e : Editor) (line : Chars) : Editor :=
  { e with output := e.output.putLine e.lineEnd line e.isUnended }

/-- Write a line to a file.  What goes to the standard output through its file
stands directly behind what has been written there. -/
def putFile (e : Editor) (name line : Chars) (isUnended : Bool) : Editor :=
  let draft := ((e.files.lookup name).getD ⟨[], false⟩).putLine e.lineEnd line isUnended
  let others := e.files.filter fun f => f.1 ≠ name
  if name = standardOutput then
    { e with
      output := { e.output with written := draft.written ++ e.output.written }
      files := (name, { draft with written := [] }) :: others }
  else { e with files := (name, draft) :: others }

/-- Write what waits for the end of the line. -/
def flush (e : Editor) : Editor :=
  { e.queue.foldl put e with queue := [] }

/-- No line follows, or none of the same file where files are apart. -/
def isAtLast (e : Editor) : Bool :=
  e.later = [] && (e.manner.separates || e.segments.all fun s => s.lines = [])

/-- The editor at the start of the next file. -/
def opened (e : Editor) (s : Segment) (rest : List Segment) : Editor :=
  let e := { e with file := s.name, later := s.lines, lastIsEnded := s.isEnded, segments := rest }
  if e.manner.separates then
    let isDue : Bool := e.output.lacksEnd && !e.manner.inPlace
    let output := if isDue then e.output.put e.lineEnd [] else e.output
    { e with
      output
      number := 0
      hold := []
      holdIsUnended := false
      unread := e.sources
      ranges := e.firstRanges }
  else e

/-- What has been written so far is what takes the place of the file. -/
def closed (e : Editor) : Editor :=
  if e.manner.inPlace && e.file ≠ [] then
    { e with
      finished := e.finished ++ [(e.file, e.output.written.reverse)]
      output := ⟨[], false⟩ }
  else e

/-- The next line in place of the current one, if there is one. -/
def nextAmong : List Segment → Editor → Option (Chars × Editor)
  | segments, e =>
    match e.later, segments with
    | line :: later, _ =>
      some (line,
        { e with
          number := e.number + 1
          later
          hasSubstituted := false
          isUnended := later = [] && !e.lastIsEnded })
    | [], s :: rest => nextAmong rest (e.closed.opened s rest)
    | [], [] => none

/-- The next line in place of the current one, if there is one. -/
def next? (e : Editor) : Option (Chars × Editor) :=
  nextAmong e.segments e.flush

/-- The expression, or the last one that was used. -/
def resolve (e : Editor) (r : Option Regex) : Option Regex × Editor :=
  match r.orElse fun _ => e.lastRegex with
  | some r => (some r, { e with lastRegex := some r })
  | none => (none, { e with failure := some "no previous regular expression".toList })

/-- The line has an address. -/
def hasAddress (e : Editor) (a : Address) : Bool × Editor :=
  match a with
  | .number n => (e.number = n, e)
  | .last => (e.isAtLast, e)
  | .every first step =>
    (if step = 0 then e.number = first
      else e.number ≥ first && (e.number - first) % step = 0, e)
  | .regex r =>
    match e.resolve r with
    | (some r, e) => (r.matchesIn e.pattern, e)
    | (none, e) => (false, e)

/-- The editor with another state of the range at a place. -/
def setRange (e : Editor) (index : Nat) (s : RangeState) : Editor :=
  { e with ranges := e.ranges.setIfInBounds index s }

/-- The line is in a range that starts here, unless it starts too late. -/
def startRange (e : Editor) (index : Nat) (start : Address) (stop : RangeEnd) : Bool × Editor :=
  let shut : RangeState := match start with
    | .number _ => .closed
    | _ => .outside
  match stop with
  | .address (.number n) =>
    if e.number ≥ n then (start = .number e.number || e.number ≤ n || shut = .outside,
      e.setRange index shut)
    else (true, e.setRange index .inside)
  | .address _ => (true, e.setRange index .inside)
  | .more n => (true, e.setRange index (if n = 0 then shut else .untilLine (e.number + n)))
  | .multiple n =>
    (true, e.setRange index
      (if n = 0 then shut else .untilLine (e.number + n - e.number % n)))

/-- An instruction is for the line; `index` is its place. -/
def isChosen (e : Editor) (index : Nat) (i : Instruction) : Bool × Editor :=
  let (b, e) :=
    match i.start, i.stop with
    | none, _ => (true, e)
    | some a, none => e.hasAddress a
    | some a, some stop =>
      let shut : RangeState := match a with
        | .number _ => .closed
        | _ => .outside
      match e.ranges.getD index .outside with
      | .closed => (false, e)
      | .outside =>
        match a with
        | .number n => if e.number ≥ n then e.startRange index a stop else (false, e)
        | a =>
          let (found, e) := e.hasAddress a
          if found then e.startRange index a stop else (false, e)
      | .untilLine n => (true, if e.number ≥ n then e.setRange index shut else e)
      | .inside =>
        match stop with
        | .address (.number n) =>
          (e.number ≤ n, if e.number ≥ n then e.setRange index shut else e)
        | .address stop =>
          let (found, e) := e.hasAddress stop
          (true, if found then e.setRange index shut else e)
        | _ => (true, e)
  (b != i.isNegated, e)

/-- The text of a replacement for a match. -/
def replacementText (parts : List ReplacementPart) (text : Chars) (m : RegexMatch) : Chars :=
  let step (state : Chars × Option CaseChange × Option CaseChange) (part : ReplacementPart) :
      Chars × Option CaseChange × Option CaseChange :=
    let (before, lasting, once) := state
    let add (chars : Chars) : Chars × Option CaseChange × Option CaseChange :=
      let chars := match lasting with
        | some .upper => chars.map upperCase
        | some .lower => chars.map lowerCase
        | _ => chars
      match once, chars with
      | some change, c :: rest =>
        (((if change = .upperNext then upperCase c else lowerCase c) :: rest).reverse ++ before,
          lasting, none)
      | once, chars => (chars.reverse ++ before, lasting, once)
    match part with
    | .text chars => add chars
    | .group n => add (m.groupText text n)
    | .changeCase .stop => (before, none, none)
    | .changeCase .upperNext => (before, lasting, some .upperNext)
    | .changeCase .lowerNext => (before, lasting, some .lowerNext)
    | .changeCase change => (before, some change, once)
  (parts.foldl step ([], none, none)).1.reverse

/-- A text with the matches from a number on replaced, or `none` if there are
none; the first argument counts steps. -/
def replaced (r : Regex) (s : Substitution) (text : Chars) (table : Array Char) :
    Nat → Nat → Nat → Option Nat → Chars → Bool → Chars × Bool
  | 0, place, _, _, before, found => (before.reverse ++ text.drop place, found)
  | fuel + 1, place, count, lastStop, before, found =>
    let rest : Chars := text.drop place
    match r.search table place with
    | none => (before.reverse ++ rest, found)
    | some m =>
      let skipped := (text.take m.start).drop place
      let isRepeated : Bool := m.start = m.stop && lastStop = some m.start
      if isRepeated then
        match text.drop m.start with
        | [] => (before.reverse ++ rest, found)
        | c :: _ =>
          let before := c :: skipped.reverse ++ before
          replaced r s text table fuel (m.start + 1) count none before found
      else
        let count := count + 1
        let isTaken : Bool := count = s.first || (s.all && count ≥ s.first)
        let piece := if isTaken then replacementText s.replacement text m
          else (text.take m.stop).drop m.start
        let before := piece.reverse ++ skipped.reverse ++ before
        if isTaken && !s.all then (before.reverse ++ text.drop m.stop, true)
        else if m.stop = m.start then
          match text.drop m.stop with
          | [] => (before.reverse, found || isTaken)
          | c :: _ =>
            replaced r s text table fuel (m.stop + 1) count none (c :: before) (found || isTaken)
        else
          replaced r s text table fuel m.stop count (some m.stop) before (found || isTaken)

/-- A line with its invisible characters as escapes, cut to pieces of a width
that counts the sign at their ends; zero stands for no limit. -/
def unambiguous (width : Nat) (lineEnd : Char) (text : Chars) : Chars :=
  let shown (c : Char) : Chars :=
    match c with
    | '\\' => ['\\', '\\']
    | '\x07' => ['\\', 'a']
    | '\x08' => ['\\', 'b']
    | '\x0c' => ['\\', 'f']
    | '\n' => ['\\', 'n']
    | '\x0d' => ['\\', 'r']
    | '\t' => ['\\', 't']
    | '\x0b' => ['\\', 'v']
    | c =>
      if ' ' ≤ c && c ≤ '~' then [c]
      else '\\' :: Decimal.padLeft '0' 3 (Nat.toDigits 8 c.toNat)
  let (last, lines) := (text.map shown).foldl
    (fun (state : Chars × Chars) piece =>
      if width > 0 && state.1.length + piece.length + 1 > width then
        (piece, state.2 ++ state.1 ++ ['\\', lineEnd])
      else (state.1 ++ piece, state.2)) ([], [])
  lines ++ last ++ ['$', lineEnd]

/-- What follows an instruction. -/
inductive Follow where
  | next
  | jump (index : Nat)
  | endCycle
  | endQuietly
  | restart
  | stop

/-- The place behind the block that opens at an index. -/
def blockEnd (program : Array Instruction) : Nat → Nat → Nat → Nat
  | 0, index, _ => index
  | fuel + 1, index, depth =>
    match program[index]? with
    | none => index
    | some i =>
      match i.act with
      | .openBlock => blockEnd program fuel (index + 1) (depth + 1)
      | .closeBlock =>
        if depth ≤ 1 then index + 1 else blockEnd program fuel (index + 1) (depth - 1)
      | _ => blockEnd program fuel (index + 1) depth

/-- The place of a label; an empty one is the end. -/
def labelPlace (program : Array Instruction) (name : Chars) : Nat :=
  if name = [] then program.size
  else (program.findIdx? fun i => i.act = .label name).getD program.size

/-- Carry out an instruction. -/
def perform (program : Array Instruction) (e : Editor) (index : Nat) (i : Instruction) :
    Editor × Follow :=
  match i.act with
  | .openBlock | .closeBlock | .label _ => (e, .next)
  | .substitute s =>
    match e.resolve s.pattern with
    | (none, e) => ({ e with isOver := true }, .stop)
    | (some r, e) =>
      let text := e.pattern
      let (result, found) := replaced r s text text.toArray (2 * text.length + 4) 0 0 none [] false
      if !found then (e, .next)
      else
        let e := { e with pattern := result, hasSubstituted := true }
        let e := if s.prints then e.putLine result else e
        let e := match s.file with
          | some name => e.putFile name result e.isUnended
          | none => e
        (e, .next)
  | .transliterate pairs =>
    ({ e with pattern := e.pattern.map fun c => (pairs.lookup c).getD c }, .next)
  | .branch name => (e, .jump (labelPlace program name))
  | .branchIf name substituted =>
    if e.hasSubstituted = substituted then
      ({ e with hasSubstituted := false }, .jump (labelPlace program name))
    else ({ e with hasSubstituted := false }, .next)
  | .append text => ({ e with queue := e.queue ++ [text] }, .next)
  | .insert text => (e.putText text, .next)
  | .change text =>
    let isInside : Bool :=
      match i.stop, e.ranges.getD index .outside with
      | some _, .inside | some _, .untilLine _ => true
      | _, _ => false
    (if isInside then e else e.putText text, .endQuietly)
  | .readFile name => ({ e with queue := e.queue ++ (e.sources.lookup name).toList }, .next)
  | .readLine name =>
    match (e.unread.lookup name).getD [] with
    | [] => (e, .next)
    | c :: rest =>
      let line := (c :: rest).takeWhile (· ≠ e.lineEnd)
      let read := (c :: rest).take (line.length + 1)
      ({ e with
        queue := e.queue ++ [read]
        unread := (name, (c :: rest).drop (line.length + 1)) ::
          e.unread.filter fun u => u.1 ≠ name }, .next)
  | .writeFile name firstLine =>
    let line := if firstLine then e.pattern.takeWhile (· ≠ e.lineEnd) else e.pattern
    (e.putFile name line (e.isUnended && line.length = e.pattern.length), .next)
  | .quit status prints =>
    let e := if prints then { e with isUnended := false }.put [] else e
    ({ e with status, isOver := true }, if prints then .endCycle else .endQuietly)
  | .list width => (e.put (unambiguous (width.getD e.manner.width) e.lineEnd e.pattern), .next)
  | .letter c =>
    match c with
    | '=' => (e.put (Decimal.digits e.number ++ [e.lineEnd]), .next)
    | 'd' => (e, .endQuietly)
    | 'D' =>
      if e.pattern.contains e.lineEnd then
        ({ e with pattern := (e.pattern.dropWhile (· ≠ e.lineEnd)).drop 1 }, .restart)
      else (e, .endQuietly)
    | 'g' => ({ e with pattern := e.hold, isUnended := e.holdIsUnended }, .next)
    | 'G' =>
      ({ e with pattern := e.pattern ++ e.lineEnd :: e.hold, isUnended := e.holdIsUnended }, .next)
    | 'h' => ({ e with hold := e.pattern, holdIsUnended := e.isUnended }, .next)
    | 'H' =>
      ({ e with hold := e.hold ++ e.lineEnd :: e.pattern, holdIsUnended := e.isUnended }, .next)
    | 'x' =>
      ({ e with
        pattern := e.hold
        isUnended := e.holdIsUnended
        hold := e.pattern
        holdIsUnended := e.isUnended }, .next)
    | 'z' => ({ e with pattern := [] }, .next)
    | 'F' => (e.put (e.file ++ [e.lineEnd]), .next)
    | 'p' => (e.putLine e.pattern, .next)
    | 'P' =>
      let line := e.pattern.takeWhile (· ≠ e.lineEnd)
      let isUnended : Bool := e.isUnended && line.length = e.pattern.length
      ({ e with output := e.output.putLine e.lineEnd line isUnended }, .next)
    | 'n' =>
      if e.isAtLast then (e, .endCycle)
      else
        let e := if e.manner.quiet then e else e.putLine e.pattern
        match e.next? with
        | none => (e, .endQuietly)
        | some (line, e) => ({ e with pattern := line }, .next)
    | 'N' =>
      if e.isAtLast then (e, .endCycle)
      else
        match e.next? with
        | none => (e, .endCycle)
        | some (line, e) => ({ e with pattern := e.pattern ++ e.lineEnd :: line }, .next)
    | _ => (e, .next)

/-- Run the instructions from an index on for the current line; the flag says
that the line is to be edited again as it is now. -/
def cycle (program : Array Instruction) : Nat → Nat → Editor → Editor × Bool
  | 0, _, e => ({ e with isOver := true }, false)
  | fuel + 1, index, e =>
    let finish (e : Editor) (prints : Bool) : Editor :=
      (if prints && !e.manner.quiet then e.putLine e.pattern else e).flush
    match program[index]? with
    | none => (finish e true, false)
    | some i =>
      let (chosen, e) := e.isChosen index i
      if e.failure.isSome then ({ e with isOver := true }, false)
      else if !chosen then
        match i.act with
        | .openBlock => cycle program fuel (blockEnd program (program.size + 1) index 0) e
        | _ => cycle program fuel (index + 1) e
      else
        match perform program e index i with
        | (e, .next) => cycle program fuel (index + 1) e
        | (e, .jump index) => cycle program fuel index e
        | (e, .endCycle) => (finish e true, false)
        | (e, .endQuietly) => (finish e false, false)
        | (e, .restart) => (finish e false, true)
        | (e, .stop) => (e, false)

/-- Edit line after line; the flag says that the current one is edited again. -/
def lines (program : Array Instruction) : Nat → Bool → Editor → Editor
  | 0, _, e => e
  | fuel + 1, again, e =>
    let next := if again then some (e.pattern, e) else e.next?
    match next with
    | none => e
    | some (line, e) =>
      let (e, again) := cycle program 100000 0 { e with pattern := line }
      if e.isOver then e else lines program fuel again e

end Editor

/-- The script that options give, or the first operand. -/
def scriptOf (g : Given) (files : Chars → Option Chars) : Option Chars × List Chars :=
  let parts := g.options.filterMap fun o =>
    if o.letter = 'e' then some o.value
    else if o.letter = 'f' then some ((files o.value).getD [])
    else none
  if parts = [] then (g.operands.head?, g.operands.drop 1)
  else (some (['\n'].intercalate parts), g.operands)

end Sed

namespace Utility

open Shell.Program

/-- The editor at the end of files. -/
def edited (program : List Sed.Instruction) (manner : Sed.Manner)
    (sources : List (Chars × Chars)) (files : List (Chars × Chars)) : Sed.Editor :=
  let segments := files.map fun (name, text) =>
    let (lines, isEnded) := linesBy manner.lineEnd text
    Sed.Segment.mk name lines isEnded
  let table := program.toArray
  let size := (segments.map fun s => s.lines.length).foldl (· + ·) 0
  let firstRanges := table.map fun i =>
    if i.start = some (.number 0) then Sed.RangeState.inside else .outside
  let start : Sed.Editor :=
    { manner
      pattern := []
      hold := []
      number := 0
      file := []
      later := []
      lastIsEnded := true
      segments
      isUnended := false
      holdIsUnended := false
      queue := []
      output := ⟨[], false⟩
      finished := []
      files := []
      sources
      unread := sources
      firstRanges
      ranges := firstRanges
      hasSubstituted := false
      lastRegex := none
      status := 0
      failure := none
      isOver := false }
  (start.lines table (10 * size + 100000) false).closed

/-- Put a text into a file, or report why that cannot be done. -/
def writeWhole (name : String) (path text : Chars) : Steps Unit := do
  if let .error e ← Steps.writeFile path text then
    report name ("couldn't open file ".toList ++ path ++ ": ".toList ++ e.message.toList)

/-- The texts of files, each empty if it cannot be read. -/
def readable (paths : List Chars) : Steps (List (Chars × Chars)) :=
  paths.mapM fun path => do
    match ← Steps.readFile path with
    | .ok text => return (path, text)
    | .error _ => return (path, [])

/-- Edit files by a script, in their places or to the output. -/
def editFiles (g : Given) (program : List Sed.Instruction) (quiet : Bool) (operands : List Chars) :
    Steps Nat := do
  let sources ← readable (program.filterMap fun i => match i.act with
    | .readFile name | .readLine name => some name
    | _ => none)
  if g.has 'i' && operands = [] then
    report "sed" "no input files".toList
    return 4
  else
    let (files, failed) ← inputs "sed" operands
    let width := ((g.value? 'l').bind number?).getD 70
    let e := edited program ⟨quiet, g.has 's' || g.has 'i', g.has 'i',
      if g.has 'z' then '\x00' else '\n', width⟩ sources files
    let suffix := (g.value? 'i').getD []
    e.finished.forM fun (name, text) => do
      if suffix ≠ [] then
        if let .ok before ← Steps.readFile name then
          let kept := if suffix.contains '*' then
              suffix.flatMap fun c => if c = '*' then name else [c]
            else name ++ suffix
          writeWhole "sed" kept before
      writeWhole "sed" name text
    let status ← output "sed" e.output.written.reverse
    (e.files.filter fun f => f.1 ≠ Sed.Editor.standardOutput).forM fun (name, draft) =>
      writeWhole "sed" name draft.written.reverse
    match e.failure with
    | some reason =>
      report "sed" ("-e expression #1, char 0: ".toList ++ reason)
      return 1
    | none =>
      return if failed then 2 else if e.status ≠ 0 then e.status else if status ≠ 0 then 4 else 0

/-- Edit lines by a script. -/
def sed : Program :=
  withOptions "sed" 1
    ⟨"nEre:f:suzl:i?b", [("quiet", 'n'), ("silent", 'n'), ("regexp-extended", 'E'),
      ("expression", 'e'), ("file", 'f'), ("separate", 's'), ("unbuffered", 'u'),
      ("null-data", 'z'), ("zero-terminated", 'z'), ("in-place", 'i'), ("line-length", 'l'),
      ("binary", 'b'), ("posix", 'b'), ("sandbox", 'b'), ("follow-symlinks", 'b'),
      ("debug", 'b')], true⟩ fun g => do
    for o in g.options do
      if o.letter = 'f' then
        if let .error e ← Steps.readFile o.value then
          report "sed" ("couldn't open file ".toList ++ o.value ++ ": ".toList ++ e.message.toList)
          return 4
    let scripts ← readable ((g.options.filter fun o => o.letter = 'f').map GivenOption.value)
    match Sed.scriptOf g fun name => scripts.lookup name with
    | (none, _) =>
      Steps.complain
        "Usage: sed [OPTION]... \x7bscript-only-if-no-other-script\x7d [input-file]...\n".toList
      return 1
    | (some script, operands) =>
      let quiet : Bool := g.has 'n' || script.take 2 = "#n".toList
      let refuse (reason : Chars) : Steps Nat := do
        if reason = Regex.misspelling then
          report "sed" reason
          return 4
        report "sed" ("-e expression #1, char ".toList ++ Decimal.digits script.length ++
          ": ".toList ++ reason)
        return 1
      match Sed.instructions (g.has 'E' || g.has 'r') (2 * script.length + 4) 0 script with
      | .error reason => refuse reason
      | .ok program =>
        let labels := program.filterMap fun i => match i.act with
          | .branch name => some name
          | .branchIf name _ => some name
          | _ => none
        match labels.find? fun name =>
            name ≠ [] && !program.any fun i => i.act = .label name with
        | some name =>
          report "sed" ("can't find label for jump to '".toList ++ name ++ ['\''])
          return 4
        | none => editFiles g program quiet operands

end Utility

end Shell

end TcpJournal
