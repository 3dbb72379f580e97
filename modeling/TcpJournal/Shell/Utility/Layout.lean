import TcpJournal.Shell.Regex
import TcpJournal.Shell.Utility.Fields

/-!
# Programs that lay out lines

Long lines are cut, lines are numbered, and tabs and blanks take the place of
one another.  A tab reaches to the next stop: one of a list, and behind the
list a multiple of a distance, or one column.
-/

namespace TcpJournal

namespace Shell

namespace Utility

open Shell.Program

/-- A line cut into pieces of a width; the flag asks for cuts behind blanks. -/
def foldLine (width : Nat) (atBlanks byBytes : Bool) : Nat → Chars → Chars → Nat → List Chars
  | 0, _, _, _ => []
  | _, [], before, _ => [before.reverse]
  | fuel + 1, c :: rest, before, column =>
    let next :=
      if byBytes then column + 1
      else if c = '\t' then (column / 8 + 1) * 8
      else if c = '\x08' then column - 1
      else if c = '\x0d' then 0
      else column + 1
    if next ≤ width || before = [] then foldLine width atBlanks byBytes fuel rest (c :: before) next
    else
      let tailPart := before.takeWhile fun d => !(d = ' ' || d = '\t')
      if atBlanks && tailPart.length < before.length then
        (before.drop tailPart.length).reverse ::
          foldLine width atBlanks byBytes fuel (tailPart.reverse ++ c :: rest) [] 0
      else before.reverse :: foldLine width atBlanks byBytes fuel (c :: rest) [] 0

/-- Cut long lines. -/
def fold : Program := fun words =>
  let words := words.map fun word => match word with
    | '-' :: c :: rest => if Text.isDigit c then '-' :: 'w' :: c :: rest else word
    | word => word
  withOptions "fold" 1 ⟨"bsw:", [("bytes", 'b'), ("spaces", 's'), ("width", 'w')], true⟩
    (fun g => do
      match number? ((g.value? 'w').getD ['8', '0']) with
      | none | some 0 =>
        report "fold" "invalid number of columns".toList
        return 1
      | some width =>
        let folded (text : Chars) : Chars :=
          let (lines, isEnded) := linesOf text
          let all := ofLines (lines.flatMap fun line =>
            foldLine width (g.has 's') (g.has 'b') (2 * line.length + 4) line [] 0)
          if isEnded then all else all.dropLast
        let (texts, failed) ← inputs "fold" g.operands
        let status ← output "fold" (texts.flatMap fun (_, text) => folded text)
        return if failed then 1 else status) words

/-- Which lines are numbered. -/
inductive NumberedLines where
  | all
  | nonEmpty
  | none
  | matching (r : Regex)
  deriving DecidableEq, Repr

namespace NumberedLines

/-- The choice that a text describes. -/
def ofText? (text : Chars) : Option NumberedLines :=
  match text with
  | ['a'] => some all
  | ['t'] => some nonEmpty
  | ['n'] => some none
  | 'p' :: pattern => (Regex.parse .basic pattern).toOption.map matching
  | _ => Option.none

/-- A line is chosen. -/
def chooses (n : NumberedLines) (line : Chars) : Bool :=
  match n with
  | all => true
  | nonEmpty => line ≠ []
  | none => false
  | matching r => r.matchesIn line

end NumberedLines

/-- The part of a page in which a line stands. -/
inductive PagePart where
  | header
  | body
  | footer
  deriving DecidableEq, Repr

/-- The part that a line opens: the delimiter stands in it once, twice or three
times. -/
def PagePart.ofLine? (delimiter line : Chars) : Option PagePart :=
  if delimiter = [] then none
  else if line = delimiter ++ delimiter ++ delimiter then some .header
  else if line = delimiter ++ delimiter then some .body
  else if line = delimiter then some .footer
  else none

/-- How lines are numbered. -/
structure LineNumbering where
  header : NumberedLines
  body : NumberedLines
  footer : NumberedLines
  separator : Chars
  width : Nat
  format : Chars
  start : Int
  increment : Int
  joined : Nat
  delimiter : Chars
  restarts : Bool

namespace LineNumbering

/-- A number in its columns. -/
def shown (n : LineNumbering) (number : Int) : Chars :=
  let digits := Decimal.ofInt number
  if n.format = ['l', 'n'] then digits ++ List.replicate (n.width - digits.length) ' '
  else if n.format = ['r', 'z'] then
    match digits with
    | '-' :: digits => '-' :: Decimal.padLeft '0' (n.width - 1) digits
    | digits => Decimal.padLeft '0' n.width digits
  else Decimal.padLeft ' ' n.width digits

/-- Lines with numbers; a part of a page opens with an empty line.  Of blank
lines in a row only each of a number counts. -/
def text (n : LineNumbering) : PagePart → Int → Nat → List Chars → List Chars
  | _, _, _, [] => []
  | part, number, blanks, line :: rest =>
    match PagePart.ofLine? n.delimiter line with
    | some part =>
      [] :: n.text part (if n.restarts && part = .header then n.start else number) 0 rest
    | none =>
      let style := match part with
        | .header => n.header
        | .body => n.body
        | .footer => n.footer
      let isJoined : Bool := style = .all && n.joined > 1 && line = []
      let counts : Bool := style.chooses line && (!isJoined || blanks + 1 = n.joined)
      let mark := if counts then n.shown number ++ n.separator
        else List.replicate (n.width + n.separator.length) ' '
      (mark ++ line) ::
        n.text part (if counts then number + n.increment else number)
          (if isJoined && !counts then blanks + 1 else 0) rest

end LineNumbering

/-- Number lines. -/
def nl : Program :=
  withOptions "nl" 1
    ⟨"b:s:w:v:i:n:h:f:d:l:p", [("body-numbering", 'b'), ("number-separator", 's'),
      ("number-width", 'w'), ("starting-line-number", 'v'), ("line-increment", 'i'),
      ("number-format", 'n'), ("header-numbering", 'h'), ("footer-numbering", 'f'),
      ("section-delimiter", 'd'), ("join-blank-lines", 'l'), ("no-renumber", 'p')], true⟩
    fun g => do
      let text (letter : Char) (default_ : String) : Chars :=
        (g.value? letter).getD default_.toList
      let whole? (text : Chars) : Option Int :=
        let (isNegative, digits) := leadingSign text
        (number? digits).map fun n => if isNegative then -(n : Int) else n
      let style (letter : Char) (default_ : String) : Except Chars NumberedLines :=
        match NumberedLines.ofText? (text letter default_) with
        | some style => .ok style
        | none => .error ("invalid numbering style: '".toList ++ text letter default_ ++ ['\''])
      let count (letter : Char) (default_ : String) (least : Int) : Except Chars Int :=
        match whole? (text letter default_) with
        | some n => if least ≤ n then .ok n
            else .error ("invalid number: '".toList ++ text letter default_ ++ ['\''])
        | none => .error ("invalid number: '".toList ++ text letter default_ ++ ['\''])
      let format := text 'n' "rn"
      let numbering : Except Chars LineNumbering := do
        if !(["ln", "rn", "rz"].any fun f => f.toList = format) then
          .error ("invalid line numbering format: '".toList ++ format ++ ['\''])
        let body ← style 'b' "t"
        let header ← style 'h' "n"
        let footer ← style 'f' "n"
        let width ← count 'w' "6" 1
        let joined ← count 'l' "1" 1
        let start ← count 'v' "1" (-(2 ^ 63))
        let increment ← count 'i' "1" (-(2 ^ 63))
        let delimiter := match g.value? 'd' with
          | none => ['\\', ':']
          | some [c] => [c, ':']
          | some text => text
        return {
          header, body, footer, format, start, increment, delimiter
          separator := text 's' "\t"
          width := width.toNat
          joined := joined.toNat
          restarts := !g.has 'p' }
      match numbering with
      | .error reason =>
        report "nl" reason
        return 1
      | .ok n => filter "nl" g.operands fun text =>
          ofLines (n.text .body n.start 0 (linesOf text).1)

/-- Where tabs reach to: stops in order, and behind them multiples of a distance
or places at a distance from the last stop. -/
structure TabStops where
  stops : List Nat
  multiple : Option Nat
  distance : Option Nat
  deriving DecidableEq, Repr

namespace TabStops

/-- The stop behind a column; none where a tab is worth one column. -/
def next? (t : TabStops) (column : Nat) : Option Nat :=
  let multiple (n : Nat) : Option Nat := some (column + (n - column % n))
  match t.stops, t.multiple, t.distance with
  | [], some n, _ | [], none, some n => multiple n
  | [], none, none => multiple 8
  | [n], none, none => multiple n
  | stops, extend, distance =>
    match stops.find? fun stop => column < stop, extend, distance with
    | some stop, _, _ => some stop
    | none, some n, _ => multiple n
    | none, none, some n =>
      let last := stops.getLast?.getD 0
      some (column + (n - (column - last) % n))
    | none, none, none => none

/-- Stops that a list of words adds. -/
def add (t : TabStops) : List Chars → Except Chars TabStops
  | [] => .ok t
  | word :: rest =>
    let (mark, digits) : Option Char × Chars := match word with
      | '/' :: digits => (some '/', digits)
      | '+' :: digits => (some '+', digits)
      | digits => (none, digits)
    if !digits.all Text.isDigit then
      .error ("tab size contains invalid character(s): '".toList ++
        digits.dropWhile Text.isDigit ++ ['\''])
    else if digits = [] then t.add rest
    else
      let n := Decimal.value digits
      if n = 0 then .error "tab size cannot be 0".toList
      else
        match mark with
        | some '/' => { t with multiple := some n }.add rest
        | some _ => { t with distance := some n }.add rest
        | none =>
          if t.stops.getLast?.any (n ≤ ·) then .error "tab sizes must be ascending".toList
          else { t with stops := t.stops ++ [n] }.add rest

/-- The stops that options describe. -/
def ofOptions (g : Given) : Except Chars TabStops := do
  let words := (g.options.filter fun o => o.letter = 't').flatMap fun o =>
    (o.value.splitBy fun c d => isGap c = isGap d).filter fun word => !word.any isGap
  let t ← TabStops.add ⟨[], none, none⟩ words
  if t.multiple.isSome && t.distance.isSome then
    .error "'/' specifier is mutually exclusive with '+'".toList
  else return t
where
  /-- A character between stops. -/
  isGap (c : Char) : Bool := c = ',' || c = ' ' || c = '\t'

end TabStops

/-- Words in which a number as an option gives a tab stop. -/
def withTabNumbers (words : List Chars) : List Chars :=
  words.map fun word => match word with
    | '-' :: c :: rest => if Text.isDigit c then '-' :: 't' :: c :: rest else word
    | word => word

/-- A text with blanks in place of tabs, at starts of lines alone or anywhere. -/
def expandTabs (t : TabStops) (everywhere : Bool) (text : Chars) : Chars :=
  let step (state : Chars × Nat × Bool) (c : Char) : Chars × Nat × Bool :=
    let (before, column, converts) := state
    if c = '\n' then (c :: before, 0, true)
    else if !converts then (c :: before, column, false)
    else if c = '\t' then
      let next := (t.next? column).getD (column + 1)
      (List.replicate (next - column) ' ' ++ before, next, true)
    else if c = '\x08' then (c :: before, column - 1, everywhere)
    else (c :: before, column + 1, everywhere || c = ' ')
  (text.foldl step ([], 0, true)).1.reverse

/-- Turn tabs into blanks. -/
def expand : Program := fun words =>
  withOptions "expand" 1 ⟨"it:", [("tabs", 't'), ("initial", 'i')], true⟩ (fun g => do
    match TabStops.ofOptions g with
    | .error reason =>
      report "expand" reason
      return 1
    | .ok t => filter "expand" g.operands (expandTabs t (!g.has 'i'))) (withTabNumbers words)

/-- Blanks on the way to become tabs: those that wait, and whether the first of
them stands right in front of a stop. -/
structure BlankRun where
  column : Nat
  waiting : Chars
  isAtStop : Bool
  afterBlank : Bool
  converts : Bool
  deriving DecidableEq, Repr

namespace BlankRun

/-- The state at the start of a line. -/
def start : BlankRun := ⟨0, [], false, true, true⟩

/-- What the waiting blanks have become. -/
def released (r : BlankRun) : Chars :=
  match r.waiting with
  | _ :: next :: rest => if r.isAtStop then '\t' :: next :: rest else r.waiting
  | waiting => waiting

/-- The state behind a character, and what is written. -/
def step (t : TabStops) (everywhere : Bool) (r : BlankRun) (c : Char) : BlankRun × Chars :=
  let isBlank : Bool := c = ' ' || c = '\t'
  let write (r : BlankRun) (c : Char) : BlankRun × Chars :=
    if c = '\n' then (start, r.released ++ [c])
    else
      ({ r with
        waiting := []
        isAtStop := r.isAtStop && r.waiting = []
        afterBlank := isBlank
        converts := r.converts && (everywhere || isBlank) }, r.released ++ [c])
  if !r.converts then (if c = '\n' then start else r, [c])
  else if isBlank then
    match t.next? r.column with
    | none => write { r with converts := false } c
    | some next =>
      let kept : Chars := if r.isAtStop then ['\t'] else []
      if c = '\t' then write { r with column := next, waiting := kept } c
      else if r.afterBlank && r.column + 1 = next then
        write { r with column := next, waiting := kept } '\t'
      else
        ({ r with
          column := r.column + 1
          waiting := r.waiting ++ [c]
          isAtStop := r.isAtStop || r.column + 1 = next
          afterBlank := true }, [])
  else if c = '\x08' then write { r with column := r.column - 1 } c
  else write { r with column := r.column + 1 } c

end BlankRun

/-- Put tabs in place of blanks. -/
def unexpand : Program := fun words =>
  withOptions "unexpand" 1
    ⟨"at:\x01", [("all", 'a'), ("tabs", 't'), ("first-only", '\x01')], true⟩ (fun g => do
      match TabStops.ofOptions g with
      | .error reason =>
        report "unexpand" reason
        return 1
      | .ok t =>
        let everywhere : Bool := (g.has 'a' || g.has 't') && !g.has '\x01'
        filter "unexpand" g.operands fun text =>
          let (r, written) := text.foldl
            (fun (state : BlankRun × Chars) c =>
              let (r, piece) := state.1.step t everywhere c
              (r, piece.reverse ++ state.2)) (BlankRun.start, [])
          written.reverse ++ r.released) (withTabNumbers words)

end Utility

end Shell

end TcpJournal
