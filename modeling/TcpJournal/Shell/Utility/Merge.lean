import TcpJournal.Shell.Utility.Fields

/-!
# Programs that bring lines together

Lines are joined side by side, those that repeat their neighbours are counted,
and the lines of two files are compared, in order or as a whole.
-/

namespace TcpJournal

namespace Shell

namespace Utility

open Shell.Program

/-- The delimiters of a list with their escapes. -/
def delimiterList : Chars → List Chars
  | '\\' :: '0' :: rest => [] :: delimiterList rest
  | '\\' :: c :: rest => [(simpleEscape? c).getD c] :: delimiterList rest
  | c :: rest => [c] :: delimiterList rest
  | [] => []

/-- Texts with delimiters between them, which are used in turn. -/
def joinWith (delimiters : List Chars) (texts : List Chars) : Chars :=
  (texts.zipIdx.map fun (text, i) =>
    if i = 0 then text
    else (delimiters[(i - 1) % max 1 delimiters.length]?).getD [] ++ text).flatten

/-- Lines with an end of their own. -/
def ofLinesBy (lineEnd : Char) (lines : List Chars) : Chars :=
  lines.flatMap fun line => line ++ [lineEnd]

/-- Join lines side by side, or the lines of each file. -/
def paste : Program :=
  withOptions "paste" 1 ⟨"d:sz", [("delimiters", 'd'), ("serial", 's'), ("zero-terminated", 'z')],
      true⟩ fun g => do
    let delimiters := delimiterList ((g.value? 'd').getD ['\t'])
    let lineEnd := if g.has 'z' then '\x00' else '\n'
    let lines (text : Chars) : List Chars := (linesBy lineEnd text).1
    if g.has 's' then
      let (texts, failed) ← inputs "paste" g.operands
      let status ← output "paste"
        (ofLinesBy lineEnd (texts.map fun (_, text) => joinWith delimiters (lines text)))
      return if failed then 1 else status
    else
      let files := if g.operands = [] then [['-']] else g.operands
      let shares := (files.filter (· = ['-'])).length
      let input ← if shares = 0 then pure [] else do
        match ← Steps.read 0 none with
        | .ok text => pure (lines text)
        | .error _ => pure []
      let columns ← files.zipIdx.mapM fun (file, i) => do
        if file = ['-'] then
          let place := ((files.take i).filter (· = ['-'])).length
          return some ((input.zipIdx.filter fun (_, k) => k % shares = place).map Prod.fst)
        else
          match ← Steps.readFile file with
          | .ok text => return some (lines text)
          | .error e =>
            report "paste" (file ++ ": ".toList ++ e.message.toList)
            return none
      if columns.any fun c => c.isNone then return 1
      else
        let columns := columns.filterMap fun c => c
        let height := (columns.map List.length).foldl max 0
        output "paste" (ofLinesBy lineEnd ((List.range height).map fun n =>
          joinWith delimiters (columns.map fun column => (column[n]?).getD [])))

/-- By which part lines are compared with their neighbours. -/
structure LineKey where
  fields : Nat
  chars : Nat
  width : Option Nat
  ignoresCase : Bool
  deriving DecidableEq, Repr

namespace LineKey

/-- A text without its first fields. -/
def skipFields : Nat → Chars → Chars
  | 0, text => text
  | n + 1, text =>
    let isBlank (c : Char) : Bool := c = ' ' || c = '\t'
    skipFields n ((text.dropWhile isBlank).dropWhile fun c => !isBlank c)

/-- The part of a line. -/
def of (key : LineKey) (line : Chars) : Chars :=
  let text := (skipFields key.fields line).drop key.chars
  let text := match key.width with
    | some n => text.take n
    | none => text
  if key.ignoresCase then text.map lowerCase else text

/-- Lines next to one another with the same part, together. -/
def groups (key : LineKey) (lines : List Chars) : List (List Chars) :=
  lines.splitBy fun a b => key.of a = key.of b

end LineKey

/-- How groups of lines are kept apart. -/
inductive GroupGap where
  | none
  | before
  | between
  | after
  | both
  deriving DecidableEq, Repr

namespace GroupGap

/-- The gap of a name. -/
def ofName? (name : Chars) : Option GroupGap :=
  match String.ofList name with
  | "none" => some none
  | "prepend" => some before
  | "separate" => some between
  | "append" => some after
  | "both" => some both
  | _ => Option.none

/-- Groups of lines with empty lines around them. -/
def lines (gap : GroupGap) (groups : List (List Chars)) : List Chars :=
  let inner : List Chars :=
    match gap with
    | none => groups.flatten
    | before => groups.flatMap fun lines => [] :: lines
    | between | both => [[]].intercalate groups
    | after => groups.flatMap fun lines => lines ++ [[]]
  if gap = both && groups ≠ [] then [] :: inner ++ [[]] else inner

end GroupGap

/-- Count or choose lines that repeat the one before. -/
def uniq : Program := fun words =>
  let words := words.map fun word => match word with
    | '-' :: c :: rest => if Text.isDigit c then '-' :: 'f' :: c :: rest else word
    | word => word
  withOptions "uniq" 1
    ⟨"cdDuif:s:w:z\x01:\x02:", [("count", 'c'), ("repeated", 'd'), ("unique", 'u'),
      ("ignore-case", 'i'), ("skip-fields", 'f'), ("skip-chars", 's'), ("check-chars", 'w'),
      ("zero-terminated", 'z'), ("all-repeated", '\x01'), ("group", '\x02')], true⟩ (fun g => do
    let counts := g.options.filter fun o => "fsw".toList.contains o.letter
    let count (letter : Char) : Option Nat := (g.value? letter).bind number?
    let fail (reason : Chars) : Steps Nat := do
      report "uniq" reason
      return 1
    match counts.find? fun o => (number? o.value).isNone with
    | some o =>
      let what := if o.letter = 'f' then "fields to skip" else if o.letter = 's' then
        "bytes to skip" else "bytes to compare"
      fail (o.value ++ ": invalid number of ".toList ++ what.toList)
    | none =>
      let key : LineKey := ⟨(count 'f').getD 0, (count 's').getD 0, count 'w', g.has 'i'⟩
      let lineEnd := if g.has 'z' then '\x00' else '\n'
      let gap? := (g.value? '\x02').map GroupGap.ofName?
      let isPlain : Bool := !"cdDu\x01".toList.any g.has
      let showsAll : Bool := g.has 'D' || g.has '\x01'
      if gap? = some none then fail "invalid argument for '--group'".toList
      else if gap?.isSome && !isPlain then
        fail "--group is mutually exclusive with -c/-d/-D/-u".toList
      else if showsAll && g.has 'c' then
        fail "printing all duplicated lines and repeat counts is meaningless".toList
      else
        let make (text : Chars) : Chars :=
          let groups := key.groups (linesBy lineEnd text).1
          let repeated (lines : List Chars) : Bool := lines.length > 1
          let shown : List Chars :=
            match gap?.join with
            | some gap => gap.lines groups
            | none =>
              if showsAll then
                let gap := (((g.value? '\x01').bind GroupGap.ofName?).getD .none)
                gap.lines (groups.filter fun lines => repeated lines && !g.has 'u')
              else
                let kept := groups.filter fun lines =>
                  !(g.has 'd' && !repeated lines) && !(g.has 'u' && repeated lines)
                kept.map fun lines =>
                  let first := lines.headD []
                  if g.has 'c' then
                    Decimal.padLeft ' ' 7 (Decimal.digits lines.length) ++ ' ' :: first
                  else first
          ofLinesBy lineEnd shown
        match g.operands with
        | [source, target] =>
          let (texts, failed) ← inputs "uniq" [source]
          if failed then return 1
          else
            match ← Steps.openFile .writing target with
            | .error e => fail (target ++ ": ".toList ++ e.message.toList)
            | .ok index =>
              modify fun p =>
                { p with descriptors := (1, index) :: p.descriptors.filter (·.1 ≠ 1) }
              output "uniq" (make (texts.flatMap Prod.snd))
        | _ :: _ :: extra :: _ => fail ("extra operand '".toList ++ extra ++ ['\''])
        | files => filter "uniq" files make) (words.map implied)
where
  /-- Long options with a value that may be left out. -/
  implied (word : Chars) : Chars :=
    if word = "--group".toList then "--group=separate".toList
    else if word = "--all-repeated".toList then "--all-repeated=none".toList
    else word

/-- One of two files that are compared: the line before the current one, and the
lines from that on. -/
structure SortedSide where
  before : Option Chars
  lines : List Chars
  deriving DecidableEq, Repr

/-- A comparison at work: the lines so far with their columns, last first, and
the files that are out of order, last first. -/
structure SortedMerge where
  left : SortedSide
  right : SortedSide
  shown : List (Nat × Chars)
  hasUnpaired : Bool
  disorders : List Nat
  deriving DecidableEq, Repr

namespace SortedMerge

/-- Pass over the current line of a file and look at the order of its lines; at
the end of a file the last two are looked at again. -/
def passed (side : SortedSide) : SortedSide × Bool :=
  match side.lines with
  | [] => (side, false)
  | a :: rest =>
    let isWrong : Bool := match rest, side.before with
      | b :: _, _ => b < a
      | [], some before => a < before
      | [], none => false
    (⟨some a, rest⟩, isWrong)

/-- The merge behind one file or both. -/
def advance (m : SortedMerge) (column : Nat) (line : Chars) : SortedMerge :=
  let hasUnpaired : Bool := m.hasUnpaired || column ≠ 3
  let (left, leftWrong) := if column = 2 then (m.left, false) else passed m.left
  let (right, rightWrong) := if column = 1 then (m.right, false) else passed m.right
  let add (number : Nat) (isWrong : Bool) (found : List Nat) : List Nat :=
    if isWrong && !found.contains number then number :: found else found
  { left
    right
    shown := (column, line) :: m.shown
    hasUnpaired
    disorders := add 2 rightWrong (add 1 leftWrong m.disorders) }

/-- Compare lines up to the ends of both files.  With `demands` the first
disorder is the end; without, disorder counts once a line has no partner. -/
def run (demands : Bool) : Nat → SortedMerge → SortedMerge
  | 0, m => m
  | fuel + 1, m =>
    let next? : Option (Nat × Chars) :=
      match m.left.lines, m.right.lines with
      | [], [] => none
      | a :: _, [] => some (1, a)
      | [], b :: _ => some (2, b)
      | a :: _, b :: _ =>
        if a = b then some (3, a) else if a < b then some (1, a) else some (2, b)
    match next? with
    | none => m
    | some (column, line) =>
      let after := m.advance column line
      if demands then (if after.disorders ≠ [] then after else run demands fuel after)
      else
        run demands fuel
          { after with disorders := if after.hasUnpaired then after.disorders else m.disorders }

end SortedMerge

/-- Compare two sorted files line by line. -/
def comm : Program :=
  withOptions "comm" 1
    ⟨"123z\x01\x02\x03\x04:", [("zero-terminated", 'z'), ("check-order", '\x01'),
      ("nocheck-order", '\x02'), ("total", '\x03'), ("output-delimiter", '\x04')], true⟩
    fun g => do
    match g.operands with
    | [_, _] =>
      let lineEnd := if g.has 'z' then '\x00' else '\n'
      let (texts, failed) ← inputs "comm" g.operands
      match failed, texts with
      | false, [(_, a), (_, b)] =>
        let left := (linesBy lineEnd a).1
        let right := (linesBy lineEnd b).1
        let demands : Bool := g.last? "\x01\x02" = some '\x01'
        let m := SortedMerge.run demands (left.length + right.length + 1)
          ⟨⟨none, left⟩, ⟨none, right⟩, [], false, []⟩
        let delimiter := (g.value? '\x04').getD ['\t']
        let hidden (column : Nat) : Bool := g.has (Char.ofNat (48 + column))
        let lines := m.shown.reverse.filterMap fun (column, line) =>
          let before := (List.range (column - 1)).filter fun c => !hidden (c + 1)
          if hidden column then none else some ((before.flatMap fun _ => delimiter) ++ line)
        let count (column : Nat) : Chars :=
          Decimal.digits (m.shown.filter fun s => s.1 = column).length ++ delimiter
        let total := if g.has '\x03' then
            [count 1 ++ count 2 ++ count 3 ++ "total".toList] else []
        let status ← output "comm" (ofLinesBy lineEnd (lines ++ total))
        let disorders := if g.last? "\x01\x02" = some '\x02' then [] else m.disorders.reverse
        disorders.forM fun number =>
          report "comm"
            ("file ".toList ++ Decimal.digits number ++ " is not in sorted order".toList)
        if disorders = [] then return status
        else
          if !demands then report "comm" "input is not in sorted order".toList
          return 1
      | _, _ => return 1
    | operands =>
      report "comm" (if operands.length < 2 then "missing operand" else "extra operand").toList
      return 1

/-- The lengths of the longest sequences of lines that the ends of two texts
share: a row for each line of the first. -/
def sharedLengths (b : Array Chars) : List Chars → List (Array Nat)
  | [] => [Array.replicate (b.size + 1) 0]
  | line :: rest =>
    let below := sharedLengths b rest
    let last := below.headD #[]
    let row := (List.range b.size).foldl
      (fun (row : List Nat) k =>
        let j := b.size - 1 - k
        let here := if b[j]? = some line then last.getD (j + 1) 0 + 1
          else max (last.getD j 0) (row.headD 0)
        here :: row) [0]
    row.toArray :: below

/-- Which lines two texts share, in order: the numbers of those that only one
has, up to the next shared one. -/
def changes (a b : Array Chars) (lengths : Array (Array Nat)) :
    Nat → Nat → Nat → Nat × Nat → List (Nat × Nat × Nat × Nat)
  | 0, _, _, _ => []
  | fuel + 1, i, j, (startA, startB) =>
    let close (rest : List (Nat × Nat × Nat × Nat)) : List (Nat × Nat × Nat × Nat) :=
      if startA = i && startB = j then rest else (startA, i, startB, j) :: rest
    let length (i j : Nat) : Nat := (lengths.getD i #[]).getD j 0
    match a[i]?, b[j]? with
    | none, none => close []
    | some x, some y =>
      if x = y then close (changes a b lengths fuel (i + 1) (j + 1) (i + 1, j + 1))
      else if length (i + 1) j ≥ length i (j + 1) then
        changes a b lengths fuel (i + 1) j (startA, startB)
      else changes a b lengths fuel i (j + 1) (startA, startB)
    | some _, none => changes a b lengths fuel (i + 1) j (startA, startB)
    | none, some _ => changes a b lengths fuel i (j + 1) (startA, startB)

/-- The numbers of lines from one to another. -/
def lineSpan (start stop : Nat) : Chars :=
  if stop ≤ start + 1 then Decimal.digits (if stop = start then start else stop)
  else Decimal.digits (start + 1) ++ ',' :: Decimal.digits stop

/-- Show how two files differ. -/
def diff : Program :=
  let table : OptionTable :=
    ⟨"qswbBiau", [("brief", 'q'), ("report-identical-files", 's')], true⟩
  withOptions "diff" 2 table fun g => do
    match g.operands with
    | [first, second] =>
      let (texts, failed) ← inputs "diff" [first, second]
      match failed, texts with
      | false, [(_, s), (_, t)] =>
        if s = t then return 0
        else if g.has 'q' then
          let _ ← output "diff"
            ("Files ".toList ++ first ++ " and ".toList ++ second ++ " differ\n".toList)
          return 1
        else
          let marked (text : Chars) : Array Chars :=
            let (lines, isEnded) := linesOf text
            let lines := if isEnded then lines.map (· ++ ['\n']) else
              lines.dropLast.map (· ++ ['\n']) ++ lines.getLast?.toList
            lines.toArray
          let a := marked s
          let b := marked t
          let shared := (sharedLengths b a.toList).toArray
          let found := changes a b shared (a.size + b.size + 1) 0 0 (0, 0)
          let side (mark : Char) (lines : Array Chars) (start stop : Nat) : Chars :=
            ((lines.toList.take stop).drop start).flatMap fun line =>
              mark :: ' ' :: line ++
                if line.getLast? = some '\n' then [] else "\n\\ No newline at end of file\n".toList
          let shown := found.flatMap fun (i, i', j, j') =>
            let letter := if i = i' then 'a' else if j = j' then 'd' else 'c'
            lineSpan i i' ++ letter :: lineSpan j j' ++ '\n' :: side '<' a i i' ++
              (if letter = 'c' then "---\n".toList else []) ++ side '>' b j j'
          let _ ← output "diff" shown
          return 1
      | _, _ => return 2
    | _ =>
      report "diff" "missing operand".toList
      return 2

end Utility

end Shell

end TcpJournal
