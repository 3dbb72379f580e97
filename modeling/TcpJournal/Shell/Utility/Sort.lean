import TcpJournal.Shell.Utility.Fields
import TcpJournal.Shell.Utility.VersionName

/-!
# Sorting lines

Lines are put in order by keys: parts of them that are compared as texts, as
numbers, as months or as names with versions, in either direction.  Lines with
equal keys are in order as a whole.
-/

namespace TcpJournal

namespace Shell

namespace Utility

open Shell.Program

/-- A blank between fields. -/
def isFieldBlank (c : Char) : Bool := c = ' ' || c = '\t' || c = '\n'

/-- A place in a line: a number of fields and a number of characters in front of
it, perhaps behind blanks. -/
structure KeyPlace where
  fields : Nat
  chars : Nat
  skipsBlanks : Bool
  deriving DecidableEq, Repr

/-- A part of a line by which it is sorted: from one place to another one or to
the end of the line.  A finish without characters is the end of its field. -/
structure SortKey where
  start : KeyPlace
  finish : Option KeyPlace
  letters : Chars
  deriving DecidableEq, Repr

namespace SortKey

/-- The letters that say how parts are compared, in the order in which they are
shown. -/
def orderLetters : Chars := "bdfghiMnRrV".toList

/-- The key that is a whole line. -/
def wholeLine (letters : Chars) : SortKey :=
  ⟨⟨0, 0, letters.contains 'b'⟩, none, letters.filter (· ≠ 'b')⟩

/-- The number at the front of the description of a key, and what follows. -/
def count? (text reason : Chars) : Except Chars (Nat × Chars) :=
  let number := text.dropWhile isBlankChar
  let number := if number.head? = some '+' then number.drop 1 else number
  let digits := number.takeWhile Text.isDigit
  if digits = [] then
    .error (reason ++ ": invalid count at start of '".toList ++ text ++ ['\''])
  else .ok (Decimal.value digits, number.drop digits.length)

/-- The place at the front of the description of a key, its letters, and what
follows; the number of a character may be left out. -/
def place? (text whole reason : Chars) (isStart : Bool) :
    Except Chars (KeyPlace × Chars × Chars) := do
  let invalid (reason : String) : Except Chars (KeyPlace × Chars × Chars) :=
    .error (reason.toList ++ ": invalid field specification '".toList ++ whole ++ ['\''])
  let (field, rest) ← count? text reason
  let (char, rest) ← match rest with
    | '.' :: rest => count? rest "invalid number after '.'".toList
    | rest => pure (if isStart then 1 else 0, rest)
  let letters := rest.takeWhile orderLetters.contains
  if field = 0 then invalid "field number is zero"
  else if isStart && char = 0 then invalid "character offset is zero"
  else
    return (⟨field - 1, if isStart then char - 1 else char, letters.contains 'b'⟩,
      letters.filter (· ≠ 'b'), rest.drop letters.length)

/-- The key that a text describes. -/
def ofText (text : Chars) : Except Chars SortKey := do
  let stray : Except Chars SortKey := .error
    ("stray character in field spec: invalid field specification '".toList ++ text ++ ['\''])
  let (start, letters, rest) ← place? text text "invalid number at field start".toList true
  match rest with
  | [] => return ⟨start, none, letters⟩
  | ',' :: rest =>
    let (finish, more, rest) ← place? rest text "invalid number after ','".toList false
    if rest ≠ [] then stray else return ⟨start, some finish, letters ++ more⟩
  | _ => stray

/-- A key that says nothing about how its part is compared. -/
def isPlain (key : SortKey) : Bool :=
  key.letters = [] && !key.start.skipsBlanks && !key.finish.any KeyPlace.skipsBlanks

/-- A key in the manner of all keys, unless it has a manner of its own. -/
def inheriting (letters : Chars) (key : SortKey) : SortKey :=
  if key.isPlain then
    let skips := letters.contains 'b'
    ⟨{ key.start with skipsBlanks := skips },
      key.finish.map fun place => { place with skipsBlanks := skips },
      letters.filter (· ≠ 'b')⟩
  else key

/-- The letters of a key that cannot stand together, in the order in which they
are shown. -/
def clash? (key : SortKey) : Option Chars :=
  let has (letter : Char) : Bool := key.letters.contains letter
  let kinds := [has 'n', has 'g', has 'h', has 'M',
    has 'V' || has 'R' || has 'd' || has 'i'].countP id
  if kinds > 1 then
    some (orderLetters.filter fun c => c ≠ 'b' && c ≠ 'r' && has c && !(c = 'i' && has 'd'))
  else none

/-- The number of characters of a line in front of what follows some fields. -/
def fieldStart (separator : Option Char) : Nat → Chars → Nat → Nat
  | 0, _, before => before
  | n + 1, text, before =>
    match separator with
    | some c =>
      let field := text.takeWhile (· ≠ c)
      if field.length = text.length then before + text.length
      else fieldStart separator n (text.drop (field.length + 1)) (before + field.length + 1)
    | none =>
      let blanks := (text.takeWhile isFieldBlank).length
      let field := ((text.drop blanks).takeWhile fun c => !isFieldBlank c).length
      if text = [] then before
      else fieldStart separator n (text.drop (blanks + field)) (before + blanks + field)

/-- The number of characters of a line up to the end of the field behind some
others. -/
def fieldEnd (separator : Option Char) (fields : Nat) (line : Chars) : Nat :=
  let start := fieldStart separator fields line 0
  let rest := line.drop start
  match separator with
  | some c => start + (rest.takeWhile (· ≠ c)).length
  | none =>
    let blanks := (rest.takeWhile isFieldBlank).length
    start + blanks + ((rest.drop blanks).takeWhile fun c => !isFieldBlank c).length

/-- The part of a line that a key chooses. -/
def part (key : SortKey) (separator : Option Char) (line : Chars) : Chars :=
  let offset (place : KeyPlace) : Nat :=
    let start := fieldStart separator place.fields line 0
    let blanks := if place.skipsBlanks then ((line.drop start).takeWhile isFieldBlank).length else 0
    start + blanks + place.chars
  let last := match key.finish with
    | none => line.length
    | some place =>
      if place.chars = 0 then fieldEnd separator place.fields line else offset place
  (line.take last).drop (offset key.start)

end SortKey

/-- The order of two texts by their characters. -/
def compareTexts (a b : Chars) : Ordering :=
  if a < b then .lt else if a = b then .eq else .gt

/-- Digits in front of a point and behind it, with a sign. -/
structure PlainNumber where
  isNegative : Bool
  whole : Chars
  fraction : Chars
  deriving DecidableEq, Repr

namespace PlainNumber

/-- The number at the front of a text behind blanks, and what follows. -/
def read (text : Chars) : PlainNumber × Chars :=
  let text := text.dropWhile isFieldBlank
  let isNegative := text.head? = some '-'
  let text := if isNegative then text.drop 1 else text
  let whole := text.takeWhile Text.isDigit
  match text.drop whole.length with
  | '.' :: rest =>
    let fraction := rest.takeWhile Text.isDigit
    (⟨isNegative, whole, fraction⟩, rest.drop fraction.length)
  | rest => (⟨isNegative, whole, []⟩, rest)

/-- The number in units of a place behind the point. -/
def units (x : PlainNumber) (places : Nat) : Int :=
  let n : Int := Decimal.value (x.whole ++ x.fraction ++
    List.replicate (places - x.fraction.length) '0')
  if x.isNegative then -n else n

/-- The order of two numbers. -/
def compare (a b : PlainNumber) : Ordering :=
  let places := max a.fraction.length b.fraction.length
  Ord.compare (a.units places) (b.units places)

/-- The rank of a number by the letter for its size behind it. -/
def sizeRank (x : PlainNumber) (rest : Chars) : Int :=
  let isZero := (x.whole ++ x.fraction).all (· = '0')
  let rank := match rest.head? with
    | some c => if c = 'k' then 1 else ("_KMGTPEZYRQ".toList.idxOf c) % 11
    | none => 0
  if isZero then 0 else if x.isNegative then -(rank : Int) else rank

end PlainNumber

/-- The order of two texts by the binary numbers at their fronts: what is no
number comes first. -/
def compareGeneral (a b : Chars) : Ordering :=
  match (leadingNumber? a).map Prod.fst, (leadingNumber? b).map Prod.fst with
  | none, none | some .nan, some .nan => .eq
  | none, some _ => .lt
  | some _, none => .gt
  | some .nan, some _ => .lt
  | some _, some .nan => .gt
  | some x, some y => if x.isLess y then .lt else if y.isLess x then .gt else .eq

/-- The number of a month from 1; what is no month has the number 0. -/
def monthNumber (text : Chars) : Nat :=
  let name := String.ofList (((text.dropWhile isFieldBlank).take 3).map upperCase)
  let months := ["", "JAN", "FEB", "MAR", "APR", "MAY", "JUN", "JUL", "AUG", "SEP", "OCT", "NOV",
    "DEC"]
  months.idxOf name % 13

/-- The order of two parts of lines under letters that say how to compare. -/
def compareParts (letters a b : Chars) : Ordering :=
  let has (letter : Char) : Bool := letters.contains letter
  let clean (text : Chars) : Chars :=
    let text :=
      if has 'd' then text.filter fun c => Text.isAlphanumeric c || c = ' ' || c = '\t'
      else if has 'i' then text.filter fun c => ' ' ≤ c && c ≤ '~'
      else text
    if has 'f' then text.map upperCase else text
  let a := clean a
  let b := clean b
  let order :=
    if has 'n' then (PlainNumber.read a).1.compare (PlainNumber.read b).1
    else if has 'g' then compareGeneral a b
    else if has 'h' then
      let (m, restA) := PlainNumber.read a
      let (n, restB) := PlainNumber.read b
      (compare (m.sizeRank restA) (n.sizeRank restB)).then (m.compare n)
    else if has 'M' then compare (monthNumber a) (monthNumber b)
    else if has 'V' then VersionName.compare a b
    else compareTexts a b
  if has 'r' then order.swap else order

/-- An order of lines. -/
structure LineOrder where
  keys : List SortKey
  separator : Option Char
  isReversed : Bool
  isStable : Bool

namespace LineOrder

/-- The order of two lines by their keys. -/
def byKeys (o : LineOrder) (a b : Chars) : Ordering :=
  o.keys.foldl
    (fun order key =>
      order.then (compareParts key.letters (key.part o.separator a) (key.part o.separator b))) .eq

/-- The order of two lines, which are compared as a whole where their keys are
equal. -/
def compare (o : LineOrder) (a b : Chars) : Ordering :=
  if o.keys ≠ [] && o.isStable then o.byKeys a b
  else
    let last := compareTexts a b
    (o.byKeys a b).then (if o.isReversed then last.swap else last)

/-- Lines of which one among several equal ones is kept. -/
def withoutRepeats (o : LineOrder) (lines : List Chars) : List Chars :=
  (lines.foldl
    (fun (before : List Chars) line =>
      match before with
      | previous :: _ => if o.compare previous line = .eq then before else line :: before
      | [] => [line]) []).reverse

end LineOrder

/-- The description of a key of which the number of fields and characters in
front of its start is given, and perhaps of those in front of its end. -/
def offsetKey? (word : Chars) (finish : Option Chars) : Option Chars :=
  let place? (text : Chars) : Option (Nat × Nat × Chars) :=
    let field := text.takeWhile Text.isDigit
    let rest := text.drop field.length
    let (char, rest) := match rest with
      | '.' :: more =>
        let digits := more.takeWhile Text.isDigit
        (Decimal.value digits, more.drop digits.length)
      | rest => (0, rest)
    if field = [] || !rest.all SortKey.orderLetters.contains then none
    else some (Decimal.value field, char, rest)
  match place? word, finish.map place? with
  | some (field, char, letters), none =>
    some (Decimal.digits (field + 1) ++ '.' :: Decimal.digits (char + 1) ++ letters)
  | some (field, char, letters), some (some (lastField, lastChar, more)) =>
    let last := if lastChar = 0 then Decimal.digits lastField
      else Decimal.digits (lastField + 1) ++ '.' :: Decimal.digits lastChar
    some (Decimal.digits (field + 1) ++ '.' :: Decimal.digits (char + 1) ++ letters ++ ',' ::
      last ++ more)
  | _, _ => none

/-- What happens to the next word: it is read, kept as it is, or left out. -/
inductive NextWord where
  | isRead
  | isKept
  | isLeftOut
  deriving DecidableEq, Repr

/-- Words in which long options with their values, and keys that count what is in
front of them, are letters with values. -/
def sortWords : NextWord → List Chars → List Chars
  | _, [] => []
  | .isKept, word :: rest => word :: sortWords .isRead rest
  | .isLeftOut, _ :: rest => sortWords .isRead rest
  | .isRead, word :: rest =>
    match longForms.find? fun form => form.1.toList = word, word with
    | some (_, letters), _ => letters.toList :: sortWords .isRead rest
    | none, ['-', '-'] => word :: rest
    | none, ['-', letter] =>
      word :: sortWords (if "kotST".toList.contains letter then .isKept else .isRead) rest
    | none, '+' :: start =>
      let finish? := rest.head?.bind finishOf?
      match offsetKey? start finish? with
      | some key =>
        ('-' :: 'k' :: key) :: sortWords (if finish?.isSome then .isLeftOut else .isRead) rest
      | none => word :: sortWords .isRead rest
    | none, _ => word :: sortWords .isRead rest
where
  /-- Long options with their values, and the letters that they stand for. -/
  longForms : List (String × String) :=
    [("--check", "-c"), ("--check=diagnose-first", "-c"), ("--check=quiet", "-C"),
      ("--check=silent", "-C"), ("--sort=general-numeric", "-g"), ("--sort=human-numeric", "-h"),
      ("--sort=month", "-M"), ("--sort=numeric", "-n"), ("--sort=random", "-R"),
      ("--sort=version", "-V")]
  /-- What a word says about the end of a key. -/
  finishOf? : Chars → Option Chars
    | '-' :: c :: rest => if Text.isDigit c then some (c :: rest) else none
    | _ => none

/-- What is wrong with the options of a sort, if anything is. -/
def sortFault? (g : Given) (keys : List SortKey) : Option Chars :=
  let tabs := (g.options.filter fun o => o.letter = 't').map GivenOption.value
  let outputs := (g.options.filter fun o => o.letter = 'o').map GivenOption.value
  let quoted (text : Chars) : Chars := '\'' :: text ++ ['\'']
  let clashing (letters : Chars) : Chars :=
    "options '-".toList ++ letters ++ "' are incompatible".toList
  let isWrongSize (text : Chars) : Bool :=
    (size? (if text.getLast? = some '%' then text.dropLast else text)).isNone
  if tabs.contains [] then some "empty tab".toList
  else
    match tabs.find? fun t => t.length > 1 && t ≠ ['\\', '0'], keys.findSome? SortKey.clash?,
        g.operands with
    | some tab, _, _ => some ("multi-character tab ".toList ++ quoted tab)
    | none, clash?, operands =>
      if tabs.any fun t => some t ≠ tabs.head? then some "incompatible tabs".toList
      else if outputs.any fun path => some path ≠ outputs.head? then
        some "multiple output files specified".toList
      else if g.has 'c' && g.has 'C' then some (clashing "cC".toList)
      else if (g.value? 'S').any isWrongSize then
        some ("invalid -S argument ".toList ++ quoted ((g.value? 'S').getD []))
      else
        match clash?, g.last? "cC", operands with
        | some letters, _, _ => some (clashing letters)
        | none, some letter, _ :: extra :: _ =>
          some ("extra operand ".toList ++ quoted extra ++ " not allowed with -".toList ++ [letter])
        | none, some letter, _ => if g.has 'o' then some (clashing [letter, 'o']) else none
        | none, none, _ => none

/-- Sort lines. -/
def sort : Program := fun words =>
  withOptions "sort" 2
    ⟨"bdfghiMnRrVcCmo:suzk:t:S:T:\x01:\x02:", [("reverse", 'r'), ("numeric-sort", 'n'),
      ("unique", 'u'), ("key", 'k'), ("field-separator", 't'), ("stable", 's'), ("merge", 'm'),
      ("ignore-case", 'f'), ("ignore-leading-blanks", 'b'), ("ignore-nonprinting", 'i'),
      ("output", 'o'), ("general-numeric-sort", 'g'), ("human-numeric-sort", 'h'),
      ("dictionary-order", 'd'), ("month-sort", 'M'), ("version-sort", 'V'), ("random-sort", 'R'),
      ("zero-terminated", 'z'), ("buffer-size", 'S'), ("temporary-directory", 'T'),
      ("parallel", '\x01'), ("batch-size", '\x02')], true⟩ (fun g => do
    let letters := (g.options.filter fun o => SortKey.orderLetters.contains o.letter).map
      GivenOption.letter
    let fail (reason : Chars) : Steps Nat := do
      report "sort" reason
      return 2
    match ((g.options.filter fun o => o.letter = 'k').mapM fun o => SortKey.ofText o.value) with
    | .error reason => fail reason
    | .ok given =>
      let keys :=
        if given ≠ [] then given.map (SortKey.inheriting letters)
        else if letters.all (· = 'r') then []
        else [SortKey.wholeLine letters]
      let separator := (g.value? 't').bind fun t => if t = ['\\', '0'] then some '\x00' else t.head?
      let order : LineOrder := ⟨keys, separator, letters.contains 'r', g.has 's' || g.has 'u'⟩
      let lineEnd := if g.has 'z' then '\x00' else '\n'
      match sortFault? g keys with
      | some reason => fail reason
      | none =>
        let (texts, failed) ← inputs "sort" g.operands
        if failed then return 2
        else
          let files := texts.map fun (_, text) => (linesBy lineEnd text).1
          match g.last? "cC" with
          | some letter => check g letter order files.flatten
          | none =>
            let precedes (a b : Chars) : Bool := order.compare a b ≠ .gt
            let sorted := if g.has 'm' then files.foldl (fun a b => a.merge b precedes) []
              else files.flatten.mergeSort precedes
            let sorted := if g.has 'u' then order.withoutRepeats sorted else sorted
            write g (sorted.flatMap fun line => line ++ [lineEnd])) (sortWords .isRead words)
where
  /-- Look for a line that is not in order. -/
  check (g : Given) (letter : Char) (order : LineOrder) (lines : List Chars) : Steps Nat := do
    let isWrong (pair : Chars × Chars) : Bool :=
      let found := order.compare pair.1 pair.2
      found = .gt || (g.has 'u' && found = .eq)
    match (lines.zip (lines.drop 1)).zipIdx.find? fun (pair, _) => isWrong pair with
    | none => return 0
    | some ((_, line), i) =>
      if letter = 'c' then
        let file := g.operands.headD ['-']
        report "sort" (file ++ ':' :: Decimal.digits (i + 2) ++ ": disorder: ".toList ++ line)
      return 1
  /-- Write lines to where they belong. -/
  write (g : Given) (text : Chars) : Steps Nat := do
    match g.value? 'o' with
    | none => output "sort" text
    | some path =>
      match ← Steps.openFile .writing path with
      | .error e =>
        report "sort" ("open failed: ".toList ++ path ++ ": ".toList ++ e.message.toList)
        return 2
      | .ok index =>
        modify fun p => { p with descriptors := (1, index) :: p.descriptors.filter (·.1 ≠ 1) }
        output "sort" text

end Utility

end Shell

end TcpJournal
