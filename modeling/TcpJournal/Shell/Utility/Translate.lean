import TcpJournal.Shell.Glob
import TcpJournal.Shell.Utility.Options

/-!
# Replacing characters

A set of characters is a text of characters, ranges, classes and repetitions.
The characters of one set are replaced by those of another, deleted, or
squeezed: a run of one of them becomes a single character.
-/

namespace TcpJournal

namespace Shell

namespace Utility

open Shell.Program

/-- A character of the text of a set; an escaped one has no special meaning. -/
structure SetChar where
  char : Char
  isEscaped : Bool
  deriving DecidableEq, Repr

namespace SetChar

/-- A character that stands for itself and is not escaped. -/
def is (s : SetChar) (c : Char) : Bool := s.char = c && !s.isEscaped

/-- The octal digits of a byte at the front of a text. -/
def octalDigits (text : Chars) : Chars :=
  let three := (text.take 3).takeWhile isOctal
  if three.foldl (fun n c => 8 * n + Decimal.digitValue c) 0 < 256 then three else three.take 2

/-- The characters of the text of a set, of which the given number is read
already. -/
def read : Nat → Chars → List SetChar
  | _, [] => []
  | n + 1, _ :: rest => read n rest
  | 0, '\\' :: rest =>
    let digits := octalDigits rest
    match digits, rest with
    | [], [] => [⟨'\\', false⟩]
    | [], c :: rest => ⟨(simpleEscape? c).getD c, true⟩ :: read 1 (c :: rest)
    | digits, rest => ⟨(octalByte 3 digits).1, true⟩ :: read digits.length rest
  | 0, c :: rest => ⟨c, false⟩ :: read 0 rest

end SetChar

/-- A part of a set. -/
inductive SetItem where
  | single (c : Char)
  | range (first last : Char)
  | repeated (c : Char) (count : Option Nat)
  | equivalent (c : Char)
  | letterCase (isUpper : Bool)
  | characterClass (name : Chars)
  deriving DecidableEq, Repr

namespace SetItem

/-- All characters in order. -/
def allChars : Chars := (List.range 256).map Char.ofNat

/-- The characters between two others. -/
def charRange (first last : Char) : Chars :=
  (List.range (last.toNat + 1 - first.toNat)).map fun n => Char.ofNat (first.toNat + n)

/-- The greatest number of times that a repeated character is written out. -/
def mostRepetitions : Nat := 65536

/-- The characters of a part. -/
def members : SetItem → Chars
  | single c | equivalent c => [c]
  | range first last => charRange first last
  | repeated c count => List.replicate (min (count.getD 0) mostRepetitions) c
  | letterCase true => charRange 'A' 'Z'
  | letterCase false => charRange 'a' 'z'
  | characterClass name => allChars.filter (inClass name)

/-- A part is a class of characters. -/
def isClass : SetItem → Bool
  | letterCase _ | characterClass _ => true
  | _ => false

/-- The number of characters in front of a character and a closing bracket. -/
def beforeEnd? (mark : Char) : List SetChar → Option Nat
  | a :: b :: rest =>
    if a.is mark && b.is ']' then some 0 else (beforeEnd? mark (b :: rest)).map (· + 1)
  | _ => none

/-- A repetition behind its opening bracket, and its length. -/
def repetition? (text : List SetChar) : Except Chars (Option (SetItem × Nat)) :=
  match text with
  | c :: star :: rest =>
    let inside := rest.takeWhile fun s => !s.isEscaped && s.char ≠ ']'
    if star.is '*' && (rest.drop inside.length).head?.any (SetChar.is · ']') then
      let digits := inside.map SetChar.char
      let isOctalCount : Bool := digits.head? = some '0'
      let n := digits.foldl
        (fun n d => (if isOctalCount then 8 else 10) * n + Decimal.digitValue d) 0
      if digits.all fun d => if isOctalCount then isOctal d else Text.isDigit d then
        .ok (some (.repeated c.char (if n = 0 then none else some n), inside.length + 3))
      else .error ("invalid repeat count '".toList ++ digits ++ "' in [c*n] construct".toList)
    else .ok none
  | _ => .ok none

/-- A star and digits in front of a closing bracket. -/
def isCount (text : List SetChar) : Bool :=
  match text with
  | star :: rest =>
    star.is '*' && (rest.dropWhile fun s => Text.isDigit s.char).head?.any (SetChar.is · ']')
  | [] => false

/-- A class or a repetition behind its opening bracket, and its length. -/
def bracket? (text : List SetChar) : Except Chars (Option (SetItem × Nat)) :=
  match text with
  | mark :: rest =>
    let length? :=
      if mark.is ':' then beforeEnd? ':' rest
      else if mark.is '=' then beforeEnd? '=' rest
      else none
    match length? with
    | none => repetition? text
    | some length =>
      let name := (rest.take length).map SetChar.char
      let found (item : SetItem) : Except Chars (Option (SetItem × Nat)) :=
        .ok (some (item, length + 3))
      if name = [] then
        .error (if mark.is ':' then "missing character class name '[::]'".toList
          else "missing equivalence class character '[==]'".toList)
      else if mark.is ':' then
        if name = "upper".toList then found (.letterCase true)
        else if name = "lower".toList then found (.letterCase false)
        else if classNames.contains name then found (.characterClass name)
        else if isCount rest then repetition? text
        else .error ("invalid character class '".toList ++ name ++ ['\''])
      else
        match name with
        | [c] => found (.equivalent c)
        | name =>
          if isCount rest then repetition? text
          else .error (name ++ ": equivalence class operand must be a single character".toList)
  | [] => .ok none

/-- The parts of a set, of whose characters the given number is read already. -/
def read : Nat → List SetChar → Except Chars (List SetItem)
  | _, [] => .ok []
  | n + 1, _ :: rest => read n rest
  | 0, c :: rest =>
    match rest with
    | next :: after :: _ => do
      let found ← if c.is '[' then bracket? rest else .ok none
      match found with
      | some (item, length) => return item :: (← read length rest)
      | none =>
        if next.is '-' then
          if after.char < c.char then
            .error ("range-endpoints of '".toList ++ c.char :: '-' :: after.char ::
              "' are in reverse collating sequence order".toList)
          else return .range c.char after.char :: (← read 2 rest)
        else return .single c.char :: (← read 0 rest)
    | _ => return .single c.char :: (← read 0 rest)

/-- The parts of the set that a text is. -/
def listOf (text : Chars) : Except Chars (List SetItem) := read 0 (SetChar.read 0 text)

/-- Parts in which the repetition without a number fills a length. -/
def filled (length : Nat) (items : List SetItem) : List SetItem :=
  let known := (items.flatMap members).length
  items.map fun item =>
    match item with
    | repeated c none => repeated c (some (length - known))
    | item => item

/-- The number of repetitions without a number. -/
def openRepetitions (items : List SetItem) : Nat :=
  items.countP fun item => item matches repeated _ none

end SetItem

/-- A place in a set: a character, or the start of all letters of one case. -/
structure SetPlace where
  char : Char
  letterCase : Option Bool
  isFirst : Bool
  deriving DecidableEq, Repr

namespace SetPlace

/-- The places of a set. -/
def listOf (items : List SetItem) : List SetPlace :=
  items.flatMap fun item =>
    let letterCase := match item with
      | .letterCase isUpper => some isUpper
      | _ => none
    item.members.zipIdx.map fun (c, i) => ⟨c, letterCase, i = 0⟩

/-- The number of letters of one case. -/
def letterCount : Nat := 26

/-- The letters of both cases in pairs, from the one case to the other. -/
def casePairs (fromUpper toUpper : Bool) : List (Char × Char) :=
  (SetItem.letterCase fromUpper).members.zip (SetItem.letterCase toUpper).members

/-- Characters and what replaces them, and the characters for which nothing is
left.  All letters of one case stand only against all letters of a case. -/
def pairs (aligned : Bool) : Nat → List SetPlace → List SetPlace →
    Except Chars (List (Char × Char) × Chars)
  | 0, _, _ => .ok ([], [])
  | _, rest, [] => .ok ([], rest.map SetPlace.char)
  | fuel + 1, from_, to_ :: tos =>
    match if aligned then to_.letterCase else none, from_ with
    | some toUpper, start :: _ =>
      match start.letterCase, start.isFirst with
      | some fromUpper, true => do
        let (more, left) ← pairs aligned fuel (from_.drop letterCount) (tos.drop (letterCount - 1))
        return (casePairs fromUpper toUpper ++ more, left)
      | _, _ => .error misaligned
    | some _, [] => .error misaligned
    | none, [] => .ok ([], [])
    | none, start :: starts => do
      let (more, left) ← pairs aligned fuel starts tos
      return ((start.char, to_.char) :: more, left)
where
  /-- What is wrong when the cases of two sets do not stand against each other. -/
  misaligned : Chars := "misaligned [:upper:] and/or [:lower:] construct".toList

end SetPlace

/-- A table of all characters with those that are in a set. -/
def charTable (members : Chars) : Array Bool :=
  members.foldl (fun table c => table.set! c.toNat true) (Array.replicate 256 false)

/-- A text in which runs of the same character of a set are one character. -/
def squeeze (members : Array Bool) (text : Chars) : Chars :=
  (text.foldl
    (fun (before : Chars) c =>
      if before.head? = some c && members.getD c.toNat false then before else c :: before)
    []).reverse

/-- What is done with characters: they are taken by the complement of the first
set, and the second set cuts the first. -/
structure Replacement where
  complement : Bool
  truncates : Bool
  deriving DecidableEq, Repr

namespace Replacement

/-- The characters that a first set stands for. -/
def chosen (r : Replacement) (items : List SetItem) : Chars :=
  let listed := items.flatMap SetItem.members
  if r.complement then
    let table := charTable listed
    SetItem.allChars.filter fun c => !table.getD c.toNat false
  else listed

/-- The pairs of characters of two sets, and the characters of the second one. -/
def pairs (r : Replacement) (items others : List SetItem) :
    Except Chars (List (Char × Char) × Chars) := do
  let starts := r.chosen items
  if others.any fun item => item matches .equivalent _ then
    .error "[=c=] expressions may not appear in string2 when translating".toList
  else if others.any fun item => item matches .characterClass _ then
    .error ("when translating, the only character classes that may appear in\n".toList ++
      "string2 are 'upper' and 'lower'".toList)
  else
    let others := SetItem.filled starts.length others
    let listed := others.flatMap SetItem.members
    let places := if r.complement then starts.map fun c => ⟨c, none, true⟩
      else SetPlace.listOf items
    let (found, left) ← SetPlace.pairs (!r.complement) (listed.length + 1) places
      (SetPlace.listOf others)
    let last? := others.getLast?
    if left ≠ [] && !r.truncates && listed = [] then
      .error "when not truncating set1, string2 must be non-empty".toList
    else if left ≠ [] && !r.truncates && last?.any SetItem.isClass then
      .error ("when translating with string1 longer than string2,\n".toList ++
        "the latter string must not end with a character class".toList)
    else
      let last := listed.getLast?.getD ' '
      let added := if r.truncates then [] else left
      let written := listed ++ added.map fun _ => last
      if r.complement && items.any SetItem.isClass &&
          !(written.length = starts.length && written.all (written.head? = some ·)) then
        .error ("when translating with complemented character classes,\n".toList ++
          "string2 must map all characters in the domain to one".toList)
      else return (found ++ added.map (·, last), written)

end Replacement

/-- Replace, delete or squeeze characters. -/
def tr : Program :=
  withOptions "tr" 1
    ⟨"cCdst", [("complement", 'c'), ("delete", 'd'), ("squeeze-repeats", 's'),
      ("truncate-set1", 't')], false⟩ fun g => do
    let r : Replacement := ⟨g.has 'c' || g.has 'C', g.has 't'⟩
    let deletes := g.has 'd'
    let squeezes := g.has 's'
    let fail (reason : Chars) : Steps Nat := do
      report "tr" reason
      return 1
    let misused (reason : Chars) : Steps Nat := do
      report "tr" reason
      Steps.complain "Try 'tr --help' for more information.\n".toList
      return 1
    let fewest := if deletes = squeezes then 2 else 1
    let most := if deletes && !squeezes then 1 else 2
    match g.operands, g.operands[most]? with
    | [], _ => misused "missing operand".toList
    | _, some extra => misused ("extra operand '".toList ++ extra ++ ['\''])
    | first :: rest, none =>
      if fewest > rest.length + 1 then
        misused ("missing operand after '".toList ++ first ++ ['\''])
      else
        match SetItem.listOf first, SetItem.listOf (rest.headD []) with
        | .error e, _ | _, .error e => fail e
        | .ok items, .ok others =>
          let replaces : Bool := rest ≠ [] && !deletes
          let chosen := charTable (r.chosen items)
          if SetItem.openRepetitions items > 0 then
            fail "the [c*] repeat construct may not appear in string1".toList
          else if SetItem.openRepetitions others > 1 then
            fail "only one [c*] repeat construct may appear in string2".toList
          else if replaces then
            match r.pairs items others with
            | .error e => fail e
            | .ok (pairs, written) =>
              let map := pairs.foldl (fun (m : Array Char) (a, b) => m.set! a.toNat b)
                SetItem.allChars.toArray
              let members := charTable written
              filter "tr" [] fun text =>
                let replaced := text.map fun c => map.getD c.toNat c
                if squeezes then squeeze members replaced else replaced
          else if SetItem.openRepetitions others > 0 then
            fail "the [c*] construct may appear in string2 only when translating".toList
          else if deletes then
            let members := charTable (others.flatMap SetItem.members)
            filter "tr" [] fun text =>
              let kept := text.filter fun c => !chosen.getD c.toNat false
              if squeezes then squeeze members kept else kept
          else filter "tr" [] (squeeze chosen)

end Utility

end Shell

end TcpJournal
