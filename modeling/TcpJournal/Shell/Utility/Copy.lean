import TcpJournal.Shell.Regex
import TcpJournal.Shell.Utility.Options

/-!
# Programs that copy their input

Whole, numbered, in part, backwards, or to several places.
-/

namespace TcpJournal

namespace Shell

namespace Utility

open Shell.Program

/-- A character as `cat` makes it visible. -/
def visibleChar (c : Char) : Chars :=
  let n := c.toNat
  let plain (n : Nat) : Chars :=
    if n < 32 then ['^', Char.ofNat (n + 64)] else if n = 127 then ['^', '?'] else [Char.ofNat n]
  if c = '\n' || c = '\t' then [c]
  else if n < 128 then plain n
  else 'M' :: '-' :: plain (n - 128)

/-- Lines without blank ones that follow blank ones. -/
def squeezed : Bool → List Chars → List Chars
  | _, [] => []
  | afterBlank, line :: rest =>
    if line = [] && afterBlank then squeezed true rest
    else line :: squeezed (line = []) rest

/-- The text that `cat` makes of its input. -/
def catText (g : Given) (text : Chars) : Chars :=
  let shows (letters : String) : Bool := letters.toList.any g.has
  let (lines, ended) := linesOf text
  let lines := if g.has 's' then squeezed false lines else lines
  let shown (line : Chars) : Chars :=
    let line := if shows "vAet" then line.flatMap visibleChar else line
    if shows "TAt" then line.flatMap fun c => if c = '\t' then ['^', 'I'] else [c] else line
  let numbered := lines.foldl
    (fun (state : List Chars × Nat) line =>
      let (before, n) := state
      let counts : Bool := if g.has 'b' then line ≠ [] else g.has 'n'
      let start := if counts then Decimal.padLeft ' ' 6 (Decimal.digits n) ++ ['\t'] else []
      ((start ++ shown line) :: before, if counts then n + 1 else n)) ([], 1)
  let lineEnd : Chars := if shows "EAe" then ['$', '\n'] else ['\n']
  let all := numbered.1.reverse
  let body := all.dropLast.flatMap fun line => line ++ lineEnd
  match all.getLast? with
  | none => []
  | some last => body ++ last ++ if ended then lineEnd else []

/-- Copy files one after another. -/
def cat : Program :=
  withOptions "cat" 1
    ⟨"AbeEnstTuv", [("number", 'n'), ("show-all", 'A'), ("show-ends", 'E'), ("show-tabs", 'T'),
      ("squeeze-blank", 's'), ("number-nonblank", 'b'), ("show-nonprinting", 'v')], true⟩ fun g =>
    filter "cat" g.operands (if g.options.all fun o => o.letter = 'u' then id else catText g)

/-- A text with its first lines and the rest. -/
def splitLines (lineEnd : Char) : Nat → Chars → Chars × Chars
  | 0, text => ([], text)
  | n + 1, text =>
    let line := text.takeWhile (· ≠ lineEnd)
    let rest := text.drop (line.length + 1)
    let line := text.take (line.length + 1)
    if rest = [] then (line, [])
    else
      let (more, rest) := splitLines lineEnd n rest
      (line ++ more, rest)

/-- The number of lines in a text, a last one without end included. -/
def lineCount (lineEnd : Char) (text : Chars) : Nat :=
  text.count lineEnd + if text.getLast?.any (· ≠ lineEnd) then 1 else 0

/-- What a count of lines or bytes asks for. -/
structure Portion where
  count : Nat
  byBytes : Bool
  isInverse : Bool
  lineEnd : Char
  deriving DecidableEq, Repr

/-- The first part of a text. -/
def Portion.first (p : Portion) (text : Chars) : Chars :=
  if p.byBytes then text.take (if p.isInverse then text.length - p.count else p.count)
  else
    let size := lineCount p.lineEnd text
    (splitLines p.lineEnd (if p.isInverse then size - p.count else p.count) text).1

/-- The last part of a text, or the part from a line or byte on. -/
def Portion.last (p : Portion) (text : Chars) : Chars :=
  if p.byBytes then text.drop (if p.isInverse then p.count - 1 else text.length - p.count)
  else
    let size := lineCount p.lineEnd text
    (splitLines p.lineEnd (if p.isInverse then p.count - 1 else size - p.count) text).2

/-- Read blocks from the standard input until they hold a number of lines. -/
def readLineBlocks (lineEnd : Char) : Nat → Nat → Steps (Except FileError Chars)
  | 0, _ => return .ok []
  | fuel + 1, lines => do
    match ← Steps.read 0 (some 8192) with
    | .error e => return .error e
    | .ok block =>
      let found := block.count lineEnd
      if block = [] || found ≥ lines then return .ok block
      else
        match ← readLineBlocks lineEnd fuel (lines - found) with
        | .error e => return .error e
        | .ok more => return .ok (block ++ more)

/-- The standard input as far as the first part of it needs. -/
def readFirst (p : Portion) : Steps (Except FileError Chars) := do
  let state ← get
  if p.isInverse then Steps.read 0 none
  else if p.byBytes then Steps.read 0 (some p.count)
  else
    match state.stream? 0 with
    | some (index, .file path offset appends reads writes) =>
      match ← Steps.read 0 none with
      | .error e => return .error e
      | .ok text =>
        let taken := p.first text
        modify fun s => s.setStream index (.file path (offset + taken.length) appends reads writes)
        return .ok taken
    | _ => if p.count = 0 then return .ok [] else readLineBlocks p.lineEnd 100000 p.count

/-- The title of a file among several. -/
def fileTitle (isFirst : Bool) (file : Chars) : Chars :=
  (if isFirst then [] else ['\n']) ++ "==> ".toList ++
    (if file = ['-'] then "standard input".toList else file) ++ " <==\n".toList

/-- Write parts of files with titles where there are several. -/
def writeParts (name : String) (g : Given) (part : Chars → Steps (Except FileError Chars)) :
    Steps Nat := do
  let files := if g.operands = [] then [['-']] else g.operands
  let titled : Bool := match g.last? "qv" with
    | some 'v' => true
    | some _ => false
    | none => files.length > 1
  let results ← files.zipIdx.mapM fun (file, i) => do
    match ← part file with
    | .error e =>
      let what := if e = .isDirectory then "error reading '" else "cannot open '"
      report name <|
        what.toList ++ file ++ (if e = .isDirectory then "': " else "' for reading: ").toList ++
          e.message.toList
      return 1
    | .ok text => output name ((if titled then fileTitle (i = 0) file else []) ++ text)
  return results.foldl max 0

/-- The quotation of an argument in a message. -/
def quotedArgument (text : Chars) : Chars := '\'' :: text ++ ['\'']

/-- The first part of files. -/
def head : Program := fun words =>
  let words := match words with
    | ('-' :: c :: rest) :: more =>
      if Text.isDigit c then
        let digits := (c :: rest).takeWhile Text.isDigit
        let letters := (c :: rest).drop digits.length
        let factor : Chars := letters.filter fun l => l = 'k' || l = 'm' || l = 'b'
        let flags := letters.filter fun l => l = 'q' || l = 'v'
        let kind : Char := if letters.contains 'c' || factor ≠ [] then 'c' else 'n'
        ('-' :: kind :: digits ++ factor.map upperIfMega) ::
          flags.map (fun l => ['-', l]) ++ more
      else words
    | words => words
  withOptions "head" 1
    ⟨"n:c:qvz", [("lines", 'n'), ("bytes", 'c'), ("quiet", 'q'), ("silent", 'q'), ("verbose", 'v'),
      ("zero-terminated", 'z')], true⟩
    (fun g => do
      let (byBytes, text) : Bool × Chars :=
        match g.last? "nc" with
        | some 'c' => (true, (g.value? 'c').getD [])
        | some _ => (false, (g.value? 'n').getD [])
        | none => (false, ['1', '0'])
      let (isInverse, digits) := match text with
        | '-' :: digits => (true, digits)
        | '+' :: digits => (false, digits)
        | digits => (false, digits)
      match size? digits with
      | none =>
        let unit := if byBytes then "bytes" else "lines"
        report "head" ("invalid number of ".toList ++ unit.toList ++
          ": ".toList ++ quotedArgument digits)
        return 1
      | some count =>
        let p : Portion := ⟨count, byBytes, isInverse, if g.has 'z' then '\x00' else '\n'⟩
        writeParts "head" g fun file => do
          let found ← if file = ['-'] then readFirst p else Steps.readFile file
          return found.map p.first) words
where
  /-- The letter for a million bytes. -/
  upperIfMega (c : Char) : Char := if c = 'm' then 'M' else c

/-- The last part of files. -/
def tail : Program := fun words =>
  let words := match words with
    | (sign :: c :: rest) :: more =>
      if (sign = '-' || sign = '+') && Text.isDigit c && more.length ≤ 1 then
        let digits := (c :: rest).takeWhile Text.isDigit
        let letters := (c :: rest).drop digits.length
        let kind : Char := if letters.contains 'c' then 'c' else 'n'
        let count := if sign = '+' then '+' :: digits else digits
        ('-' :: kind :: count) :: more
      else words
    | words => words
  withOptions "tail" 1
    ⟨"n:c:qvfFz", [("lines", 'n'), ("bytes", 'c'), ("quiet", 'q'), ("silent", 'q'),
      ("verbose", 'v'), ("follow", 'f'), ("zero-terminated", 'z')], true⟩
    (fun g => do
      let (byBytes, text) : Bool × Chars :=
        match g.last? "nc" with
        | some 'c' => (true, (g.value? 'c').getD [])
        | some _ => (false, (g.value? 'n').getD [])
        | none => (false, ['1', '0'])
      let (isInverse, digits) := match text with
        | '+' :: digits => (true, digits)
        | '-' :: digits => (false, digits)
        | digits => (false, digits)
      match size? digits with
      | none =>
        let unit := if byBytes then "bytes" else "lines"
        report "tail" ("invalid number of ".toList ++ unit.toList ++
          ": ".toList ++ quotedArgument digits)
        return 1
      | some count =>
        let p : Portion := ⟨count, byBytes, isInverse, if g.has 'z' then '\x00' else '\n'⟩
        writeParts "tail" g fun file => do
          let found ← if file = ['-'] then Steps.read 0 none else Steps.readFile file
          return found.map p.last) words

/-- The pieces of a text, each with the separator at its end. -/
def pieces (separator : Char) (text : Chars) : List Chars :=
  let (first, rest) := text.foldr
    (fun c (piece, others) =>
      if c = separator then ([c], if piece = [] then others else piece :: others)
      else (c :: piece, others)) ([], [])
  if first = [] then rest else first :: rest

/-- The matches in a text from the last to the first, none of which reaches into
the one behind it; `find` gives where a match at a place stops in front of a
limit. -/
def backwardMatches (find : Nat → Nat → Option Nat) : Nat → Nat → List (Nat × Nat)
  | 0, _ => []
  | fuel + 1, limit =>
    match (List.range limit).reverse.findSome? fun place =>
        (find place limit).map fun stop => (place, stop) with
    | none => []
    | some found => found :: backwardMatches find fuel found.1

/-- The records of a text from the last to the first, with separators at their
ends or in front of them. -/
def backwardRecords (isInFront : Bool) (text : Chars) :
    Nat → List (Nat × Nat) → List Chars
  | stop, [] => [text.take stop]
  | stop, (first, last) :: rest =>
    let cut := if isInFront then first else last
    (text.take stop).drop cut :: backwardRecords isInFront text cut rest

/-- The records of files from the last to the first. -/
def tac : Program :=
  withOptions "tac" 1 ⟨"bs:r", [("separator", 's'), ("before", 'b'), ("regex", 'r')], true⟩
    fun g => do
    let separator := (g.value? 's').getD ['\n']
    let records (find : Array Char → Nat → Nat → Option Nat) (text : Chars) : Chars :=
      let table := text.toArray
      (backwardRecords (g.has 'b') text text.length
        (backwardMatches (find table) (text.length + 1) text.length)).flatten
    let make : Except Chars (Chars → Chars) :=
      match separator with
      | [] => .ok id
      | [c] =>
        if g.has 'b' then .ok fun text => (records (literal separator)) text
        else if g.has 'r' then (Regex.parse .basic separator).map fun r => records (byRegex r)
        else .ok fun text => (pieces c text).reverse.flatten
      | separator =>
        if g.has 'r' then (Regex.parse .basic separator).map fun r => records (byRegex r)
        else .ok (records (literal separator))
    match make with
    | .error reason =>
      report "tac" reason
      return 1
    | .ok make =>
      let (texts, failed) ← inputs "tac" g.operands
      let status ← output "tac" (texts.flatMap fun (_, text) => make text)
      return if failed then 1 else status
where
  /-- Where a text that starts at a place stops. -/
  literal (separator : Chars) (text : Array Char) (place limit : Nat) : Option Nat :=
    let stop := place + separator.length
    if stop ≤ limit && (text.extract place stop).toList = separator then some stop else none
  /-- Where a match that starts at a place stops. -/
  byRegex (r : Regex) (text : Array Char) (place limit : Nat) : Option Nat :=
    (r.longestAt (text.extract 0 limit) place).map RegexMatch.stop

/-- The lines of files with their characters from the last to the first. -/
def rev : Program :=
  withOptions "rev" 1 ⟨"", [], true⟩ fun g =>
    filter "rev" g.operands fun text =>
      let (lines, ended) := linesOf text
      let all := ofLines (lines.map List.reverse)
      if ended then all else all.dropLast

/-- Copy the input to the output and to files. -/
def tee : Program :=
  withOptions "tee" 1 ⟨"aip", [("append", 'a')], true⟩ fun g => do
    let opened ← g.operands.mapM fun file => do
      match ← Steps.openFile (if g.has 'a' then .appending else .writing) file with
      | .ok index => return some index
      | .error e =>
        report "tee" (file ++ ": ".toList ++ e.message.toList)
        return none
    match ← Steps.read 0 none with
    | .error e =>
      report "tee" ("read error: ".toList ++ e.message.toList)
      return 1
    | .ok text =>
      let status ← output "tee" text
      let results ← opened.mapM fun index? => do
        match index? with
        | none => return 1
        | some index =>
          let p ← get
          match p.world.streams[index]? with
          | none => return 1
          | some s =>
            match s.write text p.world.files with
            | .error _ => return 1
            | .ok (s, files) =>
              let p := p.setStream index s
              set { p with world := { p.world with files } }
              return 0
      return results.foldl max status

/-- The value of a setting among words of the form `name=value`. -/
def setting? (name : String) (words : List Chars) : Option Chars :=
  (words.reverse.find? fun word => (name.toList ++ ['=']).isPrefixOf word).map
    (·.drop (name.length + 1))

/-- The names of the settings of a copy. -/
def blockSettings : List String :=
  ["if", "of", "bs", "ibs", "obs", "cbs", "count", "skip", "seek", "iseek", "oseek", "conv",
   "status", "iflag", "oflag"]

/-- Copy blocks, unless a word is no setting. -/
def dd : Program := fun words => do
  let isSetting (word : Chars) : Bool :=
    word.contains '=' && blockSettings.contains (String.ofList (word.takeWhile (· ≠ '=')))
  match words.find? fun word => !isSetting word with
  | some word =>
    report "dd" ("unrecognized operand ".toList ++ quotedArgument word)
    Steps.complain "Try 'dd --help' for more information.\n".toList
    return 1
  | none => copyBlocks words
where
  /-- Copy blocks as settings ask for. -/
  copyBlocks (words : List Chars) : Steps Nat := do
    let size (name : String) (default_ : Nat) : Nat :=
      ((setting? name words).bind size?).getD default_
    let both := setting? "bs" words
    let inSize := if both.isSome then size "bs" 512 else size "ibs" 512
    let outSize := if both.isSome then inSize else size "obs" 512
    let skipped := size "skip" 0 * inSize
    let wanted := (setting? "count" words).map fun _ => size "count" 0 * inSize
    let conversions := (setting? "conv" words).getD []
    let input ← match setting? "if" words with
      | none => Steps.read 0 (wanted.map (· + skipped))
      | some path => Steps.readFile path
    let fail (path : Chars) (e : FileError) : Steps Nat := do
      report "dd"
        ("failed to open ".toList ++ quotedArgument path ++ ": ".toList ++ e.message.toList)
      return 1
    match input with
    | .error e => fail ((setting? "if" words).getD []) e
    | .ok text =>
      let text := text.drop skipped
      let text := match wanted with
        | some n => text.take n
        | none => text
      let has (name : String) : Bool :=
        (Glob.splitMarked (conversions.map fun c => (if c = ',' then '/' else c, false))).any
          fun word => word.map Prod.fst = name.toList
      let text := if has "ucase" then text.map upperCase else text
      let text := if has "lcase" then text.map lowerCase else text
      let result ← match setting? "of" words with
        | none => Steps.write 1 text
        | some path => do
          match ← Steps.openFile .writing path with
          | .error e => pure (.error e)
          | .ok index =>
            modify fun p => { p with descriptors := (1, index) :: p.descriptors.filter (·.1 ≠ 1) }
            Steps.write 1 text
      match result with
      | .error e => fail ((setting? "of" words).getD []) e
      | .ok () =>
        let blocks (n : Nat) : Chars :=
          Decimal.digits (text.length / n) ++ '+' ::
            Decimal.digits (if text.length % n = 0 then 0 else 1)
        if setting? "status" words ≠ some "none".toList then
          Steps.complain (blocks inSize ++ " records in\n".toList ++ blocks outSize ++
            " records out\n".toList ++ Decimal.digits text.length ++
            " bytes copied, 0.001 s, 1.0 kB/s\n".toList)
        return 0

end Utility

end Shell

end TcpJournal
