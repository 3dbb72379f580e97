import TcpJournal.Shell.Lookaround
import TcpJournal.Shell.Utility.Options

/-!
# Choosing lines by patterns

Lines are chosen in which some pattern matches, or none does.  Chosen lines are
shown, counted, named by their files, or only make the status.
-/

namespace TcpJournal

namespace Shell

namespace Utility

open Shell.Program

/-- How lines are searched. -/
structure LineSearch where
  patterns : List Regex
  wholeWords : Bool
  wholeLines : Bool
  inverts : Bool

namespace LineSearch

/-- The longest match at a place that ends where it may end. -/
def longestAt (search : LineSearch) (r : Regex) (text : Array Char) (start : Nat) :
    Option RegexMatch :=
  let isWordAt (place : Nat) : Bool := (text[place]?).any isWordChar
  let mayStart : Bool := (!search.wholeWords || start = 0 || !isWordAt (start - 1)) &&
    (!search.wholeLines || start = 0)
  let mayStop (stop : Nat) : Bool := (!search.wholeWords || !isWordAt stop) &&
    (!search.wholeLines || stop = text.size)
  if !mayStart then none
  else
    let states := (r.statesAt text start).filter fun s => mayStop s.place
    (r.bestState? states).map (Regex.matchOf start)

/-- The first and longest match of some pattern from a place on. -/
def find (search : LineSearch) (text : Array Char) : Nat → Nat → Option RegexMatch
  | 0, _ => none
  | fuel + 1, start =>
    let found := search.patterns.filterMap fun r => search.longestAt r text start
    match found with
    | [] => if search.wholeLines then none else find search text fuel (start + 1)
    | first :: rest =>
      some (rest.foldl (fun best m => if best.stop < m.stop then m else best) first)

/-- A line is chosen. -/
def chooses (search : LineSearch) (line : Chars) : Bool :=
  let text := line.toArray
  (search.find text (text.size + 1) 0).isSome != search.inverts

/-- The parts of a line that match, with their places. -/
def parts (search : LineSearch) (text : Array Char) : Nat → Nat → List (Nat × Chars)
  | 0, _ => []
  | fuel + 1, start =>
    if start > text.size then []
    else
      match search.find text (text.size + 1 - start) start with
      | none => []
      | some m =>
        if m.stop = m.start then parts search text fuel (m.start + 1)
        else (m.start, (text.toList.take m.stop).drop m.start) :: parts search text fuel m.stop

end LineSearch

/-- How chosen lines are shown.  Where lines around them are shown as well, a
line of its own stands between groups of lines that are apart. -/
structure LineReport where
  showsName : Bool
  nameEnd : Option Char
  hasTabs : Bool
  width : Nat
  showsNumber : Bool
  showsOffset : Bool
  onlyParts : Bool
  hasColours : Bool
  before : Nat
  after : Nat
  gap : Option Chars
  limit : Option Nat

namespace LineReport

/-- A text in a colour of the terminal, which is reset behind it. -/
def coloured (report : LineReport) (colour : String) (text : Chars) : Chars :=
  if report.hasColours then
    "\x1b[".toList ++ colour.toList ++ "m\x1b[K".toList ++ text ++ "\x1b[m\x1b[K".toList
  else text

/-- A part of a line that matches. -/
def matched (report : LineReport) (text : Chars) : Chars := report.coloured "01;31" text

/-- The name of a file. -/
def fileName (report : LineReport) (name : Chars) : Chars := report.coloured "35" name

/-- A sign between the parts of a report. -/
def sign (report : LineReport) (c : Char) : Chars := report.coloured "36" [c]

/-- The end of the name of a file. -/
def endOfName (report : LineReport) (c : Char) : Chars :=
  match report.nameEnd with
  | some c => [c]
  | none => report.sign c

/-- The text in front of a shown line. -/
def start (report : LineReport) (name : Chars) (number offset : Nat) (sign : Char) :
    Chars :=
  let count (n : Nat) : Chars :=
    report.coloured "32" (Decimal.padLeft ' ' report.width (Decimal.digits n)) ++ report.sign sign
  let parts : Chars :=
    (if report.showsName then report.fileName name ++ report.endOfName sign else []) ++
      (if report.showsNumber then count number else []) ++
      (if report.showsOffset then count offset else [])
  if report.hasTabs && parts ≠ [] then parts ++ ['\t'] else parts

/-- A line in which the parts that match are coloured. -/
def line (report : LineReport) (search : LineSearch) (line : Chars) : Chars :=
  if report.hasColours then
    let parts := search.parts line.toArray (line.length + 2) 0
    let (shown, last) := parts.foldl
      (fun (state : List Chars × Nat) (place, part) =>
        (report.matched part :: ((line.take place).drop state.2) :: state.1, place + part.length))
      ([], 0)
    shown.reverse.flatten ++ line.drop last
  else line

end LineReport

/-- The lines that are chosen, by their indices, up to a limit. -/
def chosenLines (search : LineSearch) (limit : Option Nat) (lines : List Chars) : List Nat :=
  let found := (lines.zipIdx.filter fun (line, _) => search.chooses line).map Prod.snd
  match limit with
  | some n => found.take n
  | none => found

/-- The report on the lines of a text; the flag says whether lines of other texts
have been shown before. -/
def LineReport.show (report : LineReport) (search : LineSearch) (name : Chars)
    (lineEnd : Char) (isLater : Bool) (lines : List Chars) (chosen : List Nat) : Chars :=
  let table := lines.toArray
  let offsets := (lines.foldl (fun (state : List Nat × Nat) line =>
    (state.2 :: state.1, state.2 + line.length + 1)) ([], 0)).1.reverse.toArray
  let isChosen := chosen.foldl (fun (t : Array Bool) i => t.set! i true)
    (Array.replicate lines.length false)
  let isShown := chosen.foldl
    (fun (t : Array Bool) i =>
      (List.range (report.before + report.after + 1)).foldl
        (fun (t : Array Bool) d =>
          let place := i + d
          if place < report.before then t else t.setIfInBounds (place - report.before) true) t)
    (Array.replicate lines.length false)
  let shown (i : Nat) : Chars :=
    let line := (table[i]?).getD []
    let offset := (offsets[i]?).getD 0
    if !report.onlyParts then
      let sign := if isChosen.getD i false then ':' else '-'
      report.start name (i + 1) offset sign ++ report.line search line ++ [lineEnd]
    else if isChosen.getD i false then
      let text := line.toArray
      (search.parts text (text.size + 2) 0).flatMap fun (place, part) =>
        report.start name (i + 1) (offset + place) ':' ++ report.matched part ++ [lineEnd]
    else []
  let step (state : Chars × Option Nat) (i : Nat) : Chars × Option Nat :=
    if !isShown.getD i false then state
    else
      let isApart : Bool := match state.2 with
        | none => isLater
        | some last => last + 1 < i
      let gap : Chars :=
        if isApart then (report.gap.map (report.coloured "36" · ++ ['\n'])).getD [] else []
      ((shown i).reverse ++ gap.reverse ++ state.1, some i)
  ((List.range lines.length).foldl step ([], none)).1.reverse

/-- The options for choosing lines. -/
def grepTable : OptionTable :=
  ⟨"EFGPe:f:iyvwxclLqsonbhHm:A:B:C:arRzUZTID:d:\x01:\x02\x03:\x04?\x05\x06\x07:\x08:",
   [("extended-regexp", 'E'), ("fixed-strings", 'F'),
    ("basic-regexp", 'G'), ("regexp", 'e'), ("ignore-case", 'i'), ("invert-match", 'v'),
    ("word-regexp", 'w'), ("line-regexp", 'x'), ("count", 'c'), ("files-with-matches", 'l'),
    ("files-without-match", 'L'), ("quiet", 'q'), ("silent", 'q'), ("no-messages", 's'),
    ("only-matching", 'o'), ("line-number", 'n'), ("byte-offset", 'b'), ("no-filename", 'h'),
    ("with-filename", 'H'), ("max-count", 'm'), ("after-context", 'A'), ("before-context", 'B'),
    ("context", 'C'), ("text", 'a'), ("file", 'f'),
    ("null", 'Z'), ("null-data", 'z'), ("initial-tab", 'T'), ("label", '\x01'),
    ("no-group-separator", '\x02'), ("group-separator", '\x03'), ("color", '\x04'),
    ("colour", '\x04'), ("perl-regexp", 'P'), ("no-ignore-case", '\x05'),
    ("line-buffered", '\x06'), ("binary-files", '\x07'), ("include", '\x08'), ("exclude", '\x08'),
    ("exclude-from", '\x08'), ("exclude-dir", '\x08'), ("recursive", 'r'),
    ("dereference-recursive", 'R'), ("binary", 'U'), ("directories", 'd'), ("devices", 'D')], true⟩

/-- Choose lines by patterns; `kind` is the spelling that a name stands for. -/
def grep (name : String) (kind : Option Char) : Program := fun words =>
  let words := words.map fun word =>
    match word with
    | '-' :: digits =>
      if digits ≠ [] && digits.all Text.isDigit then '-' :: 'C' :: digits
      else word
    | word => word
  withOptions name 2 grepTable (fun g => do
    for o in g.options do
      if o.letter = 'f' then
        if let .error e ← Steps.readFile o.value then
          report name (o.value ++ ": ".toList ++ e.message.toList)
          return 2
    let fromFiles ← ((g.options.filter fun o => o.letter = 'f').mapM fun o => do
      match ← Steps.readFile o.value with
      | .ok text => return (linesOf text).1
      | .error _ => return [])
    let given := (g.options.filter fun o => o.letter = 'e').map GivenOption.value
    let hasPattern : Bool := g.has 'e' || g.has 'f'
    if !hasPattern && g.operands = [] then
      Steps.complain ("Usage: ".toList ++ name.toList ++
        " [OPTION]... PATTERNS [FILE]...\n".toList)
      return 2
    else
      let texts := if hasPattern then given else g.operands.take 1
      let files := if hasPattern then g.operands else g.operands.drop 1
      let texts := texts.flatMap (fun text => if text = [] then [[]] else (splitPattern text)) ++
        fromFiles.flatten
      let spelling := (g.last? "EFGP").orElse fun _ => kind
      let parse (text : Chars) : Except Chars Regex :=
        match spelling with
        | some 'F' => .ok (Regex.literal text)
        | some 'E' => (Regex.parse .lenient text).bind Regex.unlessMisspelt
        | some 'P' => Regex.parseLookaround text
        | _ => (Regex.parse .basic text).bind Regex.unlessMisspelt
      let kinds := (g.options.map GivenOption.letter).filter fun c => "EFGP".toList.contains c
      let colour? : Option (Option Bool) := (g.value? '\x04').map fun word =>
        match String.ofList word with
        | "always" | "yes" | "force" => some true
        | "" | "never" | "no" | "none" | "auto" | "tty" | "if-tty" => some false
        | _ => none
      let counts := g.options.filter fun o => "ABCm".toList.contains o.letter
      let isCount (o : GivenOption) : Bool :=
        (size? o.value).isSome || (o.letter = 'm' && o.value.head? = some '-')
      if ((kind.toList ++ kinds).eraseDups).length > 1 then
        report name "conflicting matchers specified".toList
        return 2
      else if let some o := counts.find? fun o => !isCount o then
        report name (if o.letter = 'm' then "invalid max count".toList
          else o.value ++ ": invalid context length argument".toList)
        return 2
      else if spelling = some 'P' && texts.length > 1 then
        report name "the -P option only supports a single pattern".toList
        return 2
      else if !(isChoice g 'd' ["read", "recurse", "skip"] && isChoice g 'D' ["read", "skip"]) then
        report name "invalid argument".toList
        return 1
      else if !isChoice g '\x07' ["binary", "text", "without-match"] then
        report name "unknown binary-files type".toList
        return 2
      else if colour? = some none then
        report name "invalid argument for '--color'".toList
        return 2
      else
      match texts.mapM parse with
      | .error e =>
        report name e
        return 2
      | .ok patterns =>
        let ignoresCase : Bool := (g.last? "iy\x05").any (· ≠ '\x05')
        let patterns := patterns.map fun r =>
          { r with ignoresCase, byLine := g.has 'z' && r.prefersFirst }
        let search : LineSearch := ⟨patterns, g.has 'w', g.has 'x', g.has 'v'⟩
        let number (letter : Char) : Option Nat := (g.value? letter).bind size?
        let context := (number 'C').getD 0
        let showsName : Bool := match g.last? "hH" with
          | some 'H' => true
          | some _ => false
          | none => files.length > 1
        let hasContext : Bool := g.has 'A' || g.has 'B' || g.has 'C'
        let gap := match g.last? "\x02\x03" with
          | some '\x02' => none
          | some _ => g.value? '\x03'
          | none => some "--".toList
        let style : LineReport :=
          { showsName
            nameEnd := if g.has 'Z' then some '\x00' else none
            hasTabs := g.has 'T'
            width := 0
            showsNumber := g.has 'n'
            showsOffset := g.has 'b'
            onlyParts := g.has 'o'
            hasColours := colour? = some (some true)
            before := (number 'B').getD context
            after := (number 'A').getD context
            gap := if hasContext then gap else none
            limit := number 'm' }
        let lineEnd := if g.has 'z' then '\x00' else '\n'
        let files := if files = [] then [['-']] else files
        let results ← files.foldlM (fun (results : List (Bool × Bool)) file => do
          let isLater : Bool := results.any Prod.fst
          let found ← if file = ['-'] then Steps.read 0 none else Steps.readFile file
          match found with
          | .error e =>
            if !g.has 's' then report name (file ++ ": ".toList ++ e.message.toList)
            return (false, true) :: results
          | .ok text =>
            let shownName :=
              if file = ['-'] then (g.value? '\x01').getD "(standard input)".toList else file
            let isText : Bool := (g.last? "aI\x07").any fun c =>
              c = 'a' || (c = '\x07' && g.value? '\x07' = some "text".toList)
            let isSkipped : Bool := (g.last? "aI\x07").any fun c =>
              c = 'I' || (c = '\x07' && g.value? '\x07' = some "without-match".toList)
            let isBinary : Bool := !isText && lineEnd = '\n' && text.contains '\x00'
            let text := if isBinary then text.map fun c => if c = '\x00' then '\n' else c else text
            let lines := if isBinary && isSkipped then [] else (linesBy lineEnd text).1
            let chosen := chosenLines search style.limit lines
            let hit : Bool := chosen ≠ []
            if g.has 'q' then return (hit, false) :: results
            else if g.has 'l' || g.has 'L' then
              if hit != (g.last? "lL" = some 'L') then
                let _ ← Steps.print (style.fileName shownName ++ [style.nameEnd.getD '\n'])
              return (hit, false) :: results
            else if g.has 'c' then
              let _ ← Steps.print
                ((if showsName then style.fileName shownName ++ style.endOfName ':' else []) ++
                  Decimal.digits chosen.length ++ ['\n'])
              return (hit, false) :: results
            else if isBinary then
              if hit then report name (shownName ++ ": binary file matches".toList)
              return (hit, false) :: results
            else if style.onlyParts && search.inverts then return (hit, false) :: results
            else
              let isStored : Bool := match (← get).stream? 0 with
                | some (_, .file ..) => true
                | _ => file ≠ ['-']
              let size :=
                if isStored then text.length + (if g.has 'n' then 1 else 0) else 2 ^ 63 - 1
              let style :=
                { style with width := if g.has 'T' then (Decimal.digits size).length else 0 }
              let ok ← Steps.print (style.show search shownName lineEnd isLater lines chosen)
              return (hit, !ok) :: results) []
        let hit := results.any Prod.fst
        let failed := results.any Prod.snd
        return if failed && !(hit && g.has 'q') then 2 else if hit then 0 else 1) words
where
  /-- The value of an option is one of some words, if it is given. -/
  isChoice (g : Given) (letter : Char) (words : List String) : Bool :=
    (g.options.filter fun o => o.letter = letter).all fun o =>
      words.any fun w => w.toList = o.value
  /-- The patterns of a text, one a line. -/
  splitPattern (text : Chars) : List Chars :=
    let (last, lines) := text.foldr
      (fun c (line, lines) => if c = '\n' then ([], line :: lines) else (c :: line, lines)) ([], [])
    last :: lines

end Utility

end Shell

end TcpJournal
