import TcpJournal.Shell.Utility.Fields

/-!
# Joining lines by a field

Two texts of lines, each in the order of one of its fields, are read side by
side.  Lines with the same field are joined, every one with every other one;
lines without a partner may be kept.
-/

namespace TcpJournal

namespace Shell

namespace Utility

open Shell.Program

/-- A field of the output: the field by which lines are joined, or a field of one
of the two lines. -/
inductive JoinField where
  | key
  | first (field : Nat)
  | second (field : Nat)
  deriving DecidableEq, Repr

namespace JoinField

/-- The field that a text names. -/
def ofText? (text : Chars) : Option JoinField :=
  let number? (digits : Chars) : Option Nat := (Program.number? digits).filter (· > 0)
  match text with
  | ['0'] => some .key
  | '1' :: '.' :: digits => (number? digits).map fun n => .first (n - 1)
  | '2' :: '.' :: digits => (number? digits).map fun n => .second (n - 1)
  | _ => none

/-- The fields of a list, which commas or blanks separate. -/
def listOfText? (text : Chars) : Option (List JoinField) :=
  (splitOnChar ',' (text.map fun c => if c = ' ' || c = '\t' then ',' else c)).mapM ofText?

end JoinField

/-- How lines are joined. -/
structure Join where
  firstKey : Nat
  secondKey : Nat
  separator : Option Char
  filler : Chars
  format : Option (List JoinField)
  keepsFirst : Bool
  keepsSecond : Bool
  dropsPairs : Bool
  folds : Bool
  deriving DecidableEq, Repr

namespace Join

/-- The fields of a line, which runs of blanks separate unless there is a
separator. -/
def fields (j : Join) (line : Chars) : List Chars :=
  match j.separator with
  | some c => if line = [] then [] else splitOnChar c line
  | none => (splitOnChar ' ' (line.map fun c => if c = '\t' || c = '\n' then ' ' else c)).filter
      (· ≠ [])

/-- The order of two keys. -/
def compareKeys (j : Join) (a b : Chars) : Ordering :=
  let shown (text : Chars) : Chars := if j.folds then text.map upperCase else text
  if shown a < shown b then .lt else if shown a = shown b then .eq else .gt

/-- The key of a line of the first text. -/
def firstKeyOf (j : Join) (line : List Chars) : Chars := line.getD j.firstKey []

/-- The key of a line of the second text. -/
def secondKeyOf (j : Join) (line : List Chars) : Chars := line.getD j.secondKey []

/-- The output for two lines, one of which may be missing. -/
def row (j : Join) (first second : Option (List Chars)) : Chars :=
  let field (line : Option (List Chars)) (n : Nat) : Chars :=
    match (line.getD [])[n]? with
    | some text => if text = [] then j.filler else text
    | none => j.filler
  let key : Chars := if first.isSome then field first j.firstKey else field second j.secondKey
  let others (line : Option (List Chars)) (key : Nat) : List Chars :=
    (List.range (line.getD []).length).filterMap fun n =>
      if n = key then none else some (field line n)
  let texts : List Chars := match j.format with
    | none => key :: (others first j.firstKey ++ others second j.secondKey)
    | some format => format.map fun f =>
      match f with
      | .key => key
      | .first n => field first n
      | .second n => field second n
  [j.separator.getD ' '].intercalate texts

/-- The first two lines are not in order. -/
def isDisordered (j : Join) (keyOf : List Chars → Chars) : List (List Chars) → Bool
  | a :: b :: _ => j.compareKeys (keyOf a) (keyOf b) = .gt
  | _ => false

/-- Some two lines behind one another are not in order. -/
def hasDisorder (j : Join) (keyOf : List Chars → Chars) : List (List Chars) → Bool
  | [] => false
  | a :: rest => j.isDisordered keyOf (a :: rest) || j.hasDisorder keyOf rest

/-- The rows for the lines of two texts, and whether a line was out of order
behind the first line without a partner.  The number bounds the steps. -/
def rows (j : Join) : Nat → Bool → List (List Chars) → List (List Chars) → List Chars × Bool
  | 0, _, _, _ => ([], false)
  | _, hadSingle, firsts, [] =>
    (if j.keepsFirst then firsts.map fun line => j.row (some line) none else [],
      hadSingle && j.hasDisorder j.firstKeyOf firsts)
  | _, hadSingle, [], seconds =>
    (if j.keepsSecond then seconds.map fun line => j.row none (some line) else [],
      hadSingle && j.hasDisorder j.secondKeyOf seconds)
  | fuel + 1, hadSingle, a :: firsts, b :: seconds =>
    match j.compareKeys (j.firstKeyOf a) (j.secondKeyOf b) with
    | .lt =>
      let (more, wrong) := j.rows fuel true firsts (b :: seconds)
      (if j.keepsFirst then j.row (some a) none :: more else more,
        wrong || (hadSingle && j.isDisordered j.firstKeyOf (a :: firsts)))
    | .gt =>
      let (more, wrong) := j.rows fuel true (a :: firsts) seconds
      (if j.keepsSecond then j.row none (some b) :: more else more,
        wrong || (hadSingle && j.isDisordered j.secondKeyOf (b :: seconds)))
    | .eq =>
      let isPartner (line : List Chars) : Bool :=
        j.compareKeys (j.firstKeyOf line) (j.secondKeyOf b) = .eq
      let isOther (line : List Chars) : Bool :=
        j.compareKeys (j.firstKeyOf a) (j.secondKeyOf line) = .eq
      let left := firsts.takeWhile isPartner
      let right := seconds.takeWhile isOther
      let (more, wrong) :=
        j.rows fuel hadSingle (firsts.drop left.length) (seconds.drop right.length)
      let pairs := if j.dropsPairs then []
        else (a :: left).flatMap fun x => (b :: right).map fun y => j.row (some x) (some y)
      (pairs ++ more, wrong || (hadSingle &&
        (j.hasDisorder j.firstKeyOf ((a :: firsts).take (left.length + 2)) ||
          j.hasDisorder j.secondKeyOf ((b :: seconds).take (right.length + 2)))))

end Join

/-- Join the lines of two files by a field. -/
def join : Program :=
  withOptions "join" 1 ⟨"a:v:e:o:t:1:2:j:iz\x01\x02\x03", [("ignore-case", 'i'),
    ("zero-terminated", 'z'), ("check-order", '\x01'), ("nocheck-order", '\x02'),
    ("header", '\x03')], true⟩ fun g => do
    let fail (reason : Chars) : Steps Nat := do
      report "join" reason
      return 1
    let field? (letter : Char) : Option (Option Nat) :=
      match (g.value? letter).orElse fun _ => g.value? 'j' with
      | some text => ((number? text).filter (· > 0)).map fun n => some (n - 1)
      | none => some none
    let format? := match g.value? 'o' with
      | none => some none
      | some text => (JoinField.listOfText? text).map some
    let sides := (g.options.filter fun o => "av".toList.contains o.letter).map GivenOption.value
    let keeps (side : Char) : Bool := sides.contains [side]
    match field? '1', field? '2', format?, g.operands with
    | some firstKey, some secondKey, some format, [first, second] =>
      if sides.any fun side => side ≠ ['1'] && side ≠ ['2'] then
        fail "invalid field number".toList
      else if ((g.value? 't').getD []).length > 1 && g.value? 't' ≠ some ['\\', '0'] then
        fail ("multi-character tab '".toList ++ (g.value? 't').getD [] ++ ['\''])
      else if first = ['-'] && second = ['-'] then
        fail "both files cannot be standard input".toList
      else
        let (texts, failed) ← inputs "join" [first, second]
        match failed, texts.map Prod.snd with
        | false, [a, b] =>
          let separator := (g.value? 't').map fun t =>
            if t = ['\\', '0'] then '\x00' else t.headD '\n'
          let j : Join := ⟨firstKey.getD 0, secondKey.getD 0, separator, (g.value? 'e').getD [],
            format, keeps '1', keeps '2', g.has 'v', g.has 'i'⟩
          let lineEnd := if g.has 'z' then '\x00' else '\n'
          let lines (text : Chars) : List (List Chars) := (linesBy lineEnd text).1.map j.fields
          let firsts := lines a
          let seconds := lines b
          let titled : Bool := g.has '\x03'
          let title := if titled && firsts ≠ [] && seconds ≠ []
            then [j.row firsts.head? seconds.head?] else []
          let firsts := if titled then firsts.drop 1 else firsts
          let seconds := if titled then seconds.drop 1 else seconds
          let fuel := firsts.length + seconds.length + 1
          let (rows, wrong) := j.rows fuel (g.has '\x01') firsts seconds
          let status ← output "join" ((title ++ rows).flatMap fun row => row ++ [lineEnd])
          if wrong && !g.has '\x02' then fail "input is not in sorted order".toList
          else return status
        | _, _ => return 1
    | some _, some _, some _, operands =>
      if operands.length < 2 then fail "missing operand".toList
      else fail ("extra operand '".toList ++ operands.getD 2 [] ++ ['\''])
    | _, _, none, _ => fail "invalid field specifier".toList
    | _, _, _, _ => fail "invalid field number".toList

end Utility

end Shell

end TcpJournal
