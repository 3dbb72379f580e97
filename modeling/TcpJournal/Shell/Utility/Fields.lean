import TcpJournal.Shell.Glob
import TcpJournal.Shell.Utility.Options

/-!
# Programs on characters, columns and lines

Programs that count, choose, replace and join the characters and columns of
lines.
-/

namespace TcpJournal

namespace Shell

namespace Utility

open Shell.Program

/-- What a text holds. -/
structure TextCounts where
  lines : Nat
  words : Nat
  chars : Nat
  longest : Nat
  deriving DecidableEq, Repr

namespace TextCounts

/-- The counts of a text; tabs reach to the next multiple of eight columns. -/
def ofText (text : Chars) : TextCounts :=
  let step (state : TextCounts × Bool × Nat) (c : Char) : TextCounts × Bool × Nat :=
    let (n, inWord, column) := state
    let isSpace := isBlankChar c
    let column' :=
      if c = '\n' || c = '\x0d' || c = '\x0c' then 0
      else if c = '\t' then (column / 8 + 1) * 8
      else if ' ' ≤ c && c ≤ '~' then column + 1
      else column
    (⟨if c = '\n' then n.lines + 1 else n.lines,
      if !isSpace && !inWord then n.words + 1 else n.words, n.chars + 1, max n.longest column'⟩,
      !isSpace, column')
  (text.foldl step (⟨0, 0, 0, 0⟩, false, 0)).1

/-- The sum of counts. -/
def add (a b : TextCounts) : TextCounts :=
  ⟨a.lines + b.lines, a.words + b.words, a.chars + b.chars, max a.longest b.longest⟩

/-- The counts that are asked for. -/
def chosen (n : TextCounts) (g : Given) : List Nat :=
  let all := !(g.has 'l' || g.has 'w' || g.has 'c' || g.has 'm' || g.has 'L')
  (if all || g.has 'l' then [n.lines] else []) ++ (if all || g.has 'w' then [n.words] else []) ++
    (if g.has 'm' then [n.chars] else []) ++ (if all || g.has 'c' then [n.chars] else []) ++
    (if g.has 'L' then [n.longest] else [])

end TextCounts

/-- The size of the file that the standard input is. -/
def inputFileSize : Steps (Option Nat) := do
  let p ← get
  match p.stream? 0 with
  | some (_, .file path ..) =>
    match p.world.files.node? path with
    | some (.regular content _) => return some content.length
    | _ => return none
  | _ => return none

/-- Count lines, words and bytes. -/
def wc : Program :=
  withOptions "wc" 1
    ⟨"clLmw\x01:", [("bytes", 'c'), ("chars", 'm'), ("lines", 'l'), ("words", 'w'),
      ("max-line-length", 'L'), ("total", '\x01')], true⟩ fun g => do
    let size? ← inputFileSize
    let (texts, failed) ← inputs "wc" g.operands
    let counted := texts.map fun (file, text) => (file, TextCounts.ofText text)
    let columns := ((TextCounts.mk 0 0 0 0).chosen g).length
    let size (file : Chars) (n : TextCounts) : Option Nat :=
      if file = ['-'] then size?
      else if "/dev/".toList.isPrefixOf file then none
      else some n.chars
    let sizes := counted.map fun (file, n) => size file n
    let width :=
      if g.operands.length ≤ 1 && columns = 1 then 1
      else
        max (Decimal.digits ((sizes.filterMap id).foldl (· + ·) 0)).length
          (if sizes.any Option.isNone then 7 else 1)
    let row (n : TextCounts) (file : Chars) : Chars :=
      let cells := (n.chosen g).map fun k => Decimal.padLeft ' ' width (Decimal.digits k)
      [' '].intercalate cells ++ (if file = [] then [] else ' ' :: file) ++ ['\n']
    let rows := counted.flatMap fun (file, n) => row n (if g.operands = [] then [] else file)
    let sum := (counted.map Prod.snd).foldl TextCounts.add ⟨0, 0, 0, 0⟩
    let (rows, total) := match (g.value? '\x01').map String.ofList with
      | some "never" => (rows, [])
      | some "only" =>
        ([], [' '].intercalate ((sum.chosen g).map Decimal.digits) ++ ['\n'])
      | some "always" => (rows, row sum "total".toList)
      | _ => (rows, if g.operands.length ≤ 1 then [] else row sum "total".toList)
    let status ← output "wc" (rows ++ total)
    return if failed then 1 else status

/-- A range of positions from 1, which may have no end. -/
structure PositionRange where
  first : Nat
  last : Option Nat
  deriving DecidableEq, Repr

namespace PositionRange

/-- The position lies in the range. -/
def holds (r : PositionRange) (n : Nat) : Bool := r.first ≤ n && r.last.all (n ≤ ·)

/-- The least number that is too great for a position. -/
def tooGreat : Nat := 2 ^ 64 - 1

/-- The range that a text is. -/
def ofText? (text : Chars) : Option PositionRange :=
  let start := text.takeWhile Text.isDigit
  let first := if start = [] then 1 else Decimal.value start
  let valid (last : Option Nat) : Option PositionRange :=
    if first = 0 || first ≥ tooGreat || last.any fun n => n < first || n ≥ tooGreat then none
    else some ⟨first, last⟩
  match text.drop start.length with
  | [] => if start = [] then none else valid (some first)
  | '-' :: rest =>
    if !rest.all Text.isDigit || (start = [] && rest = []) then none
    else valid (if rest = [] then none else some (Decimal.value rest))
  | _ => none

/-- Ranges of which each one starts behind the end of the one before; ranges that
share a position are one range. -/
def merged (ranges : List PositionRange) : List PositionRange :=
  let sorted := ranges.mergeSort fun a b => a.first ≤ b.first
  (sorted.foldl
    (fun (before : List PositionRange) r =>
      match before with
      | previous :: rest =>
        if previous.holds r.first then
          let last := match previous.last, r.last with
            | some m, some n => some (max m n)
            | _, _ => none
          ⟨previous.first, last⟩ :: rest
        else r :: before
      | [] => [r]) []).reverse

/-- The ranges of the positions that are in none of some ranges, from a position
on; the ranges are merged. -/
def complement : Nat → List PositionRange → List PositionRange
  | start, [] => [⟨start, none⟩]
  | start, r :: rest =>
    let gap : List PositionRange := if start < r.first then [⟨start, some (r.first - 1)⟩] else []
    match r.last with
    | some last => gap ++ complement (last + 1) rest
    | none => gap

/-- The ranges of a list, which commas or blanks separate. -/
def listOfText? (text : Chars) : Option (List PositionRange) :=
  let words := text.foldr
    (fun c (words : List Chars) =>
      if c = ',' || c = ' ' || c = '\t' then [] :: words
      else match words with
        | word :: rest => (c :: word) :: rest
        | [] => [[c]]) [[]]
  (words.mapM ofText?).map merged

end PositionRange

/-- A text between separators. -/
def splitOnChar (separator : Char) (text : Chars) : List Chars :=
  let (last, parts) := text.foldr
    (fun c (part, parts) => if c = separator then ([], part :: parts) else (c :: part, parts))
    ([], [])
  last :: parts

/-- The parts of lines that are chosen, and what stands between them. -/
structure Cut where
  ranges : List PositionRange
  separator : Char
  joint : Option Chars
  keepsUnseparated : Bool
  deriving DecidableEq, Repr

namespace Cut

/-- A position is chosen. -/
def chooses (c : Cut) (n : Nat) : Bool := c.ranges.any fun r => r.holds n

/-- The chosen characters of a line; a joint stands between ranges. -/
def characters (cut : Cut) (line : Chars) : Chars :=
  let kept := line.zipIdx.filter fun (_, i) => cut.chooses (i + 1)
  let startsRange (n : Nat) : Bool := cut.ranges.any fun r => r.first = n
  kept.zipIdx.flatMap fun ((c, i), k) =>
    if k > 0 && startsRange (i + 1) then cut.joint.getD [] ++ [c] else [c]

/-- The chosen fields of a line; a line without a separator may be kept. -/
def fields (cut : Cut) (line : Chars) : Option Chars :=
  if line.contains cut.separator then
    let parts := (splitOnChar cut.separator line).zipIdx.filter fun (_, i) => cut.chooses (i + 1)
    some ((cut.joint.getD [cut.separator]).intercalate (parts.map Prod.fst))
  else if cut.keepsUnseparated then some line
  else none

end Cut

/-- Choose characters or fields of lines. -/
def cut : Program :=
  withOptions "cut" 1
    ⟨"b:c:d:f:nsCzO:", [("bytes", 'b'), ("characters", 'c'), ("delimiter", 'd'), ("fields", 'f'),
      ("only-delimited", 's'), ("complement", 'C'), ("output-delimiter", 'O'),
      ("zero-terminated", 'z')], true⟩ fun g => do
    let fail (reason : String) : Steps Nat := do
      report "cut" reason.toList
      Steps.complain "Try 'cut --help' for more information.\n".toList
      return 1
    let lists := g.options.filter fun o => "bcf".toList.contains o.letter
    let delimiter := (g.value? 'd').getD ['\t']
    match lists with
    | [] => fail "you must specify a list of bytes, characters, or fields"
    | [list] =>
      let byFields := list.letter = 'f'
      if delimiter.length > 1 then fail "the delimiter must be a single character"
      else if !byFields && (g.value? 'd').isSome then
        fail "an input delimiter may be specified only when operating on fields"
      else if !byFields && g.has 's' then
        fail "suppressing non-delimited lines makes sense\n\tonly when operating on fields"
      else
        match PositionRange.listOfText? list.value with
        | none => fail "invalid field range"
        | some ranges =>
          let lineEnd := if g.has 'z' then '\x00' else '\n'
          let ranges := if g.has 'C' then PositionRange.complement 1 ranges else ranges
          let joint := (g.value? 'O').map fun joint => if joint = [] then ['\x00'] else joint
          let choice : Cut := ⟨ranges, delimiter.headD '\x00', joint, !g.has 's'⟩
          let chosen (line : Chars) : Option Chars :=
            if byFields then choice.fields line else some (choice.characters line)
          filter "cut" g.operands fun text =>
            let lines :=
              if byFields && choice.separator = lineEnd then
                if text = [] then []
                else [if text.getLast? = some lineEnd then text.dropLast else text]
              else (linesBy lineEnd text).1
            (lines.filterMap chosen).flatMap fun line => line ++ [lineEnd]
    | _ => fail "only one list may be specified"

/-- Write lines in some order, here as they are. -/
def shuf : Program :=
  withOptions "shuf" 1 ⟨"en:i:r", [("echo", 'e'), ("head-count", 'n'), ("input-range", 'i')], true⟩
    fun g => do
      let limit (lines : List Chars) : List Chars :=
        match (g.value? 'n').bind number? with
        | some n => lines.take n
        | none => lines
      if g.has 'e' then output "shuf" (ofLines (limit g.operands))
      else filter "shuf" g.operands fun text => ofLines (limit (linesOf text).1)

end Utility

end Shell

end TcpJournal
