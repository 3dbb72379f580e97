import TcpJournal.Shell.Conversion
import TcpJournal.Shell.Regex

/-!
# Expressions with lookaround

A spelling of regular expressions with reluctant and possessive repetitions,
named groups, groups that do not count, and conditions on what stands around a
place.  The first way to a match is preferred over the longest match.
-/

namespace TcpJournal

namespace Shell

/-- The flags that an expression can set for its parts. -/
structure LookaroundFlags where
  ignoresCase : Bool
  dotAll : Bool
  isSpaced : Bool
  deriving DecidableEq, Repr

/-- What is left of an expression's text while it is read, the groups, and their
names. -/
structure LookaroundReading where
  rest : Chars
  groups : Nat
  names : List (Chars × Nat)
  deriving DecidableEq, Repr

namespace LookaroundReading

/-- The members of a set of characters with a property. -/
def membersWhere (holds : Char → Bool) : List SetMember :=
  (((List.range 256).map Char.ofNat).filter holds).map fun c => .range c c

/-- The property that a letter behind a backslash stands for. -/
def classTest? (letter : Char) : Option (Char → Bool) :=
  let blank (c : Char) : Bool := c = ' ' || c = '\t' || c = '\xa0'
  let lineBreak (c : Char) : Bool := ('\n' ≤ c && c ≤ '\x0d') || c = '\x85'
  match letter with
  | 'd' => some Text.isDigit
  | 'D' => some fun c => !Text.isDigit c
  | 'w' => some isWordChar
  | 'W' => some fun c => !isWordChar c
  | 's' => some isBlankChar
  | 'S' => some fun c => !isBlankChar c
  | 'h' => some blank
  | 'H' => some fun c => !blank c
  | 'v' => some lineBreak
  | 'V' => some fun c => !lineBreak c
  | 'N' => some fun c => c ≠ '\n'
  | _ => none

/-- The property of a general category. -/
def categoryTest? (name : Chars) : Option (Char → Bool) :=
  let isUpper (c : Char) : Bool := 'A' ≤ c && c ≤ 'Z'
  let isLower (c : Char) : Bool := 'a' ≤ c && c ≤ 'z'
  match String.ofList name with
  | "L" => some fun c => isUpper c || isLower c
  | "Lu" => some isUpper
  | "Ll" => some isLower
  | "N" | "Nd" => some Text.isDigit
  | _ => none

/-- A node for one character with a property. -/
def oneWhere (holds : Char → Bool) : RegexNode := .oneOf false (membersWhere holds)

/-- The other case of a letter. -/
def otherCase (c : Char) : Char := if upperCase c = c then lowerCase c else upperCase c

/-- A node for a character, or for both cases of a letter. -/
def charNode (flags : LookaroundFlags) (c : Char) : RegexNode :=
  if flags.ignoresCase && otherCase c ≠ c then
    .oneOf false [.range c c, .range (otherCase c) (otherCase c)]
  else .char c

/-- The number that digits of a base spell. -/
def valueIn (base : Nat) (digits : Chars) : Nat :=
  digits.foldl (fun n c => base * n + (Text.hexValue? c).getD 0) 0

/-- The character of an escape behind its backslash, and the text behind it. -/
def escapedChar? (text : Chars) : Option (Char × Chars) :=
  let braced (base : Nat) (rest : Chars) : Option (Char × Chars) :=
    let digits := rest.takeWhile (· ≠ '\x7d')
    if digits ≠ [] && digits.length < rest.length then
      some (Char.ofNat (valueIn base digits % 256), rest.drop (digits.length + 1))
    else none
  match text with
  | 'n' :: rest => some ('\n', rest)
  | 't' :: rest => some ('\t', rest)
  | 'r' :: rest => some ('\x0d', rest)
  | 'f' :: rest => some ('\x0c', rest)
  | 'e' :: rest => some ('\x1b', rest)
  | 'a' :: rest => some ('\x07', rest)
  | 'x' :: '\x7b' :: rest => braced 16 rest
  | 'x' :: rest =>
    let digits := (rest.take 2).takeWhile fun c => (Text.hexValue? c).isSome
    some (Char.ofNat (valueIn 16 digits), rest.drop digits.length)
  | 'o' :: '\x7b' :: rest => braced 8 rest
  | 'c' :: c :: rest => some (Char.ofNat ((upperCase c).toNat ^^^ 64), rest)
  | '0' :: _ => some (octalByte 3 text)
  | c :: rest => if Text.isAlphanumeric c then none else some (c, rest)
  | [] => none

/-- A piece of a set in brackets: one character, or a property. -/
inductive SetPiece where
  | char (c : Char)
  | members (members : List SetMember)
  deriving DecidableEq, Repr

/-- The piece at the front of a set, and the text behind it. -/
def setPiece (text : Chars) : Except Chars (SetPiece × Chars) :=
  match text with
  | '\\' :: 'b' :: rest => .ok (.char '\x08', rest)
  | '\\' :: rest =>
    match rest with
    | [] => .error "\\ at end of pattern".toList
    | c :: after =>
      match classTest? c, escapedChar? rest with
      | some test, _ => .ok (.members (membersWhere test), after)
      | none, some (c, after) => .ok (.char c, after)
      | none, none =>
        if isOctal c then
          let (byte, after) := octalByte 3 rest
          .ok (.char byte, after)
        else .error "unrecognized character follows \\".toList
  | '[' :: ':' :: rest =>
    let (excluded, named) := match rest with
      | '^' :: named => (true, named)
      | named => (false, named)
    let name := named.takeWhile fun c => 'a' ≤ c && c ≤ 'z'
    match named.drop name.length with
    | ':' :: ']' :: after =>
      if name = "word".toList then
        .ok (.members (membersWhere fun c => isWordChar c != excluded), after)
      else if classNames.contains name then
        .ok (.members (membersWhere fun c => inClass name c != excluded), after)
      else .error "unknown POSIX class name".toList
    | _ => .ok (.char '[', ':' :: rest)
  | c :: rest => .ok (.char c, rest)
  | [] => .error "missing terminating ] for character class".toList

/-- The members of a set behind its opening bracket. -/
def setMembers : Nat → Bool → Chars → Except Chars (List SetMember × Chars)
  | 0, _, _ => .error "missing terminating ] for character class".toList
  | fuel + 1, isFirst, text =>
    if text.head? = some ']' && !isFirst then .ok ([], text.drop 1)
    else do
      let (first, rest) ← setPiece text
      let plain (members : List SetMember) (rest : Chars) : Except Chars (List SetMember × Chars) :=
        (setMembers fuel false rest).map fun (more, rest) => (members ++ more, rest)
      match first, rest with
      | .members members, _ => plain members rest
      | .char c, '-' :: after =>
        if after.head? = some ']' then plain [.range c c] rest
        else
          match ← setPiece after with
          | (.char d, after) =>
            if d < c then .error "range out of order in character class".toList
            else plain [.range c d] after
          | (.members members, after) => plain (.range c c :: .range '-' '-' :: members) after
      | .char c, _ => plain [.range c c] rest

/-- The node for a set, in which both cases of a letter may be one. -/
def setNode (flags : LookaroundFlags) (excluded : Bool) (members : List SetMember) : RegexNode :=
  if flags.ignoresCase then
    .oneOf excluded (membersWhere fun c =>
      members.any fun m => m.holds c || m.holds (otherCase c))
  else .oneOf excluded members

/-- A sign of repetition at the front of a text: its bounds, and the text behind
it. -/
def bounds? (text : Chars) : Option (Nat × Option Nat × Chars) :=
  match text with
  | '*' :: rest => some (0, none, rest)
  | '+' :: rest => some (1, none, rest)
  | '?' :: rest => some (0, some 1, rest)
  | '\x7b' :: rest =>
    let low := rest.takeWhile Text.isDigit
    if low = [] then none
    else
      match rest.drop low.length with
      | '\x7d' :: after => some (Decimal.value low, some (Decimal.value low), after)
      | ',' :: more =>
        let high := more.takeWhile Text.isDigit
        match more.drop high.length with
        | '\x7d' :: after =>
          some (Decimal.value low, if high = [] then none else some (Decimal.value high), after)
        | _ => none
      | _ => none
  | _ => none

/-- A node with the repetition behind it, if there is one. -/
def repeated (node : RegexNode) (text : Chars) : Except Chars (RegexNode × Chars) :=
  match bounds? text with
  | none => .ok (node, text)
  | some (least, most, rest) =>
    if most.any (· < least) then .error "numbers out of order in \x7b\x7d quantifier".toList
    else
      match rest with
      | '?' :: rest => .ok (.reluctant node least most, rest)
      | '+' :: rest => .ok (.atomic (.repeated node least most), rest)
      | rest => .ok (.repeated node least most, rest)

/-- The number of characters that a node always takes, if there is such a
number. -/
def width? : RegexNode → Option Nat
  | .char _ | .anyChar | .oneOf .. => some 1
  | .both left right => do return (← width? left) + (← width? right)
  | .either left right => do
    let n ← width? left
    let m ← width? right
    if n = m then some n else none
  | .repeated body least most | .reluctant body least most =>
    if most = some least then (width? body).map (· * least) else none
  | .group _ body | .atomic body => width? body
  | .back _ => none
  | _ => some 0

/-- Each alternative of a node takes a number of characters of its own. -/
def hasWidths : RegexNode → Bool
  | .either left right => hasWidths left && hasWidths right
  | node => (width? node).isSome

/-- The greatest number of a group that is looked back at. -/
def greatestBack : RegexNode → Nat
  | .both left right | .either left right => max (greatestBack left) (greatestBack right)
  | .repeated body .. | .reluctant body .. | .atomic body | .ahead _ body | .behind _ body
  | .group _ body => greatestBack body
  | .back n => n
  | _ => 0

/-- The blanks and remarks that a spaced expression leaves out. -/
def withoutBlanks : Nat → Chars → Chars
  | 0, text => text
  | fuel + 1, text =>
    match text with
    | '#' :: rest => withoutBlanks fuel (rest.dropWhile (· ≠ '\n'))
    | c :: rest => if isBlankChar c then withoutBlanks fuel rest else text
    | [] => []

/-- Flags with the changes that letters ask for, behind the mark of a group. -/
def changedFlags (isOn : Bool) (flags : LookaroundFlags) : Chars → LookaroundFlags × Chars
  | 'i' :: rest => changedFlags isOn { flags with ignoresCase := isOn } rest
  | 's' :: rest => changedFlags isOn { flags with dotAll := isOn } rest
  | 'x' :: rest => changedFlags isOn { flags with isSpaced := isOn } rest
  | 'm' :: rest | 'n' :: rest | 'J' :: rest | 'U' :: rest => changedFlags isOn flags rest
  | '-' :: rest => changedFlags false flags rest
  | '^' :: rest => changedFlags true ⟨false, false, false⟩ rest
  | rest => (flags, rest)

/-- A name up to its end, and the text behind it. -/
def nameTo? (close : Char) (text : Chars) : Option (Chars × Chars) :=
  let name := text.takeWhile isNameChar
  if name ≠ [] && (text.drop name.length).head? = some close then
    some (name, text.drop (name.length + 1))
  else none

/-- The node that looks back at the group that a text names: by its number, by its
number from here, or by its name. -/
def backNode (r : LookaroundReading) (name : Chars) : Except Chars RegexNode :=
  let missing : Except Chars RegexNode := .error "reference to non-existent subpattern".toList
  match name with
  | '-' :: digits =>
    let n := Decimal.value digits
    if n = 0 || n > r.groups || !digits.all Text.isDigit then missing
    else .ok (.back (r.groups + 1 - n))
  | name =>
    if name ≠ [] && name.all Text.isDigit then .ok (.back (Decimal.value name))
    else
      match r.names.lookup name with
      | some n => .ok (.back n)
      | none => missing

/-- The node of an escape behind its backslash. -/
def escapeNode (flags : LookaroundFlags) (r : LookaroundReading) :
    Except Chars (RegexNode × LookaroundReading) :=
  let lineBreak : RegexNode :=
    .atomic (.either (.both (.char '\x0d') (.char '\n'))
      (.oneOf false [.range '\n' '\x0d', .range '\x85' '\x85']))
  let atEnd : RegexNode := .either .textEnd (.ahead false (.both (.char '\n') .textEnd))
  let named (close : Char) (rest : Chars) : Except Chars (RegexNode × LookaroundReading) :=
    let name := rest.takeWhile (· ≠ close)
    (backNode r name).map fun node => (node, { r with rest := rest.drop (name.length + 1) })
  match r.rest with
  | [] => .error "\\ at end of pattern".toList
  | 'b' :: rest => .ok (.wordEdge true true, { r with rest })
  | 'B' :: rest => .ok (.insideWord, { r with rest })
  | 'A' :: rest | 'G' :: rest => .ok (.textStart, { r with rest })
  | 'z' :: rest => .ok (.textEnd, { r with rest })
  | 'Z' :: rest => .ok (atEnd, { r with rest })
  | 'K' :: rest => .ok (.matchStart, { r with rest })
  | 'R' :: rest => .ok (lineBreak, { r with rest })
  | 'E' :: rest => .ok (.empty, { r with rest })
  | 'g' :: '\x7b' :: rest | 'k' :: '\x7b' :: rest => named '\x7d' rest
  | 'k' :: '<' :: rest => named '>' rest
  | 'k' :: '\'' :: rest => named '\'' rest
  | 'g' :: rest =>
    let digits := rest.takeWhile fun c => Text.isDigit c || c = '-'
    (backNode r digits).map fun node => (node, { r with rest := rest.drop digits.length })
  | 'p' :: rest | 'P' :: rest =>
    let (name, after) := match rest with
      | '\x7b' :: inside =>
        let name := inside.takeWhile (· ≠ '\x7d')
        (name, inside.drop (name.length + 1))
      | rest => (rest.take 1, rest.drop 1)
    match categoryTest? name with
    | some test =>
      let excluded : Bool := r.rest.head? = some 'P'
      .ok (oneWhere fun c => test c != excluded, { r with rest := after })
    | none => .error "unknown property after \\P or \\p".toList
  | c :: rest =>
    match classTest? c with
    | some test => .ok (oneWhere test, { r with rest })
    | none =>
      if Text.isDigit c && c ≠ '0' then
        let digits := r.rest.takeWhile Text.isDigit
        let n := Decimal.value digits
        if n < 10 || n ≤ r.groups then
          .ok (.back n, { r with rest := r.rest.drop digits.length })
        else if isOctal c then
          let (byte, rest) := octalByte 3 r.rest
          .ok (charNode flags byte, { r with rest })
        else .error "reference to non-existent subpattern".toList
      else
        match escapedChar? r.rest with
        | some (c, rest) => .ok (charNode flags c, { r with rest })
        | none => .error "unrecognized character follows \\".toList

/-- A text up to the end of its quotation, and the text behind it. -/
def quotedText : Chars → Chars × Chars
  | '\\' :: 'E' :: rest => ([], rest)
  | c :: rest =>
    let (quoted, after) := quotedText rest
    (c :: quoted, after)
  | [] => ([], [])

/-- Nodes one after another. -/
def inRow (before node : RegexNode) : RegexNode :=
  if before = .empty then node else if node = .empty then before else .both before node

mutual

/-- Alternatives up to the end of the text or of a group. -/
def alternatives : Nat → LookaroundFlags → LookaroundReading →
    Except Chars (RegexNode × LookaroundReading)
  | 0, _, _ => .error "regular expression is too large".toList
  | fuel + 1, flags, r => do
    let (first, flags, r) ← branch fuel flags .empty r
    match r.rest with
    | '|' :: rest =>
      let (second, r) ← alternatives fuel flags { r with rest }
      return (.either first second, r)
    | _ => return (first, r)

/-- Pieces one after another, behind those that have been read; the flags may
change for those that follow. -/
def branch : Nat → LookaroundFlags → RegexNode → LookaroundReading →
    Except Chars (RegexNode × LookaroundFlags × LookaroundReading)
  | 0, _, _, _ => .error "regular expression is too large".toList
  | fuel + 1, flags, before, r =>
    let text := if flags.isSpaced then withoutBlanks (r.rest.length + 1) r.rest else r.rest
    let piece (node : RegexNode) (r : LookaroundReading) :
        Except Chars (RegexNode × LookaroundFlags × LookaroundReading) := do
      let behind := if flags.isSpaced then withoutBlanks (r.rest.length + 1) r.rest else r.rest
      let (node, rest) ← repeated node behind
      branch fuel flags (inRow before node) { r with rest }
    match text with
    | [] => .ok (before, flags, { r with rest := [] })
    | '|' :: _ | ')' :: _ => .ok (before, flags, { r with rest := text })
    | '(' :: '?' :: '#' :: rest =>
      branch fuel flags before { r with rest := (rest.dropWhile (· ≠ ')')).drop 1 }
    | '(' :: '?' :: rest => do
      let (changed, after) := changedFlags true flags rest
      match after with
      | ')' :: after =>
        if rest.head? = some ')' || after.length + 1 < rest.length then
          branch fuel changed before { r with rest := after }
        else .error "unrecognized character after (?".toList
      | _ =>
        let (node, r) ← specialGroup fuel flags changed { r with rest }
        piece node r
    | '(' :: '*' :: _ => .error "(*VERB) not recognized or malformed".toList
    | '(' :: rest => do
      let index := r.groups + 1
      let (node, r) ← groupBody fuel flags { r with rest, groups := index }
      piece (.group index node) r
    | '[' :: rest => do
      let (excluded, inside) := match rest with
        | '^' :: inside => (true, inside)
        | inside => (false, inside)
      let (members, rest) ← setMembers (inside.length + 1) true inside
      piece (setNode flags excluded members) { r with rest }
    | '.' :: rest =>
      piece (if flags.dotAll then .anyChar else oneWhere (· ≠ '\n')) { r with rest }
    | '^' :: rest => piece .lineStart { r with rest }
    | '$' :: rest => piece .lineEnd { r with rest }
    | '\\' :: 'Q' :: rest => do
      let (quoted, after) := quotedText rest
      match quoted.getLast? with
      | none => branch fuel flags before { r with rest := after }
      | some last =>
        let front := quoted.dropLast.foldl (fun node c => inRow node (charNode flags c)) before
        let (node, rest) ← repeated (charNode flags last) after
        branch fuel flags (inRow front node) { r with rest }
    | '\\' :: rest => do
      let (node, r) ← escapeNode flags { r with rest }
      piece node r
    | c :: rest =>
      if (bounds? text).isSome then .error "quantifier does not follow a repeatable item".toList
      else piece (charNode flags c) { r with rest }

/-- A group behind its opening sign, up to and with its closing one. -/
def groupBody : Nat → LookaroundFlags → LookaroundReading →
    Except Chars (RegexNode × LookaroundReading)
  | 0, _, _ => .error "regular expression is too large".toList
  | fuel + 1, flags, r => do
    let (node, r) ← alternatives fuel flags r
    match r.rest with
    | ')' :: rest => return (node, { r with rest })
    | _ => .error "missing closing parenthesis".toList

/-- A group with a mark behind its opening sign; the flags of a group that only
changes flags are given as well. -/
def specialGroup : Nat → LookaroundFlags → LookaroundFlags → LookaroundReading →
    Except Chars (RegexNode × LookaroundReading)
  | 0, _, _, _ => .error "regular expression is too large".toList
  | fuel + 1, flags, changed, r =>
    let wrapped (wrap : RegexNode → RegexNode) (rest : Chars) :
        Except Chars (RegexNode × LookaroundReading) := do
      let (node, r) ← groupBody fuel flags { r with rest }
      return (wrap node, r)
    let lookBehind (negated : Bool) (rest : Chars) :
        Except Chars (RegexNode × LookaroundReading) := do
      let (node, r) ← groupBody fuel flags { r with rest }
      if hasWidths node then return (.behind negated node, r)
      else .error "lookbehind assertion is not fixed length".toList
    let named (close : Char) (text : Chars) : Except Chars (RegexNode × LookaroundReading) :=
      match nameTo? close text with
      | none => .error "subpattern name expected".toList
      | some (name, rest) => do
        let index := r.groups + 1
        let (node, r) ← groupBody fuel flags
          { r with rest, groups := index, names := (name, index) :: r.names }
        return (.group index node, r)
    match r.rest with
    | ':' :: rest => wrapped id rest
    | '=' :: rest => wrapped (.ahead false) rest
    | '!' :: rest => wrapped (.ahead true) rest
    | '>' :: rest => wrapped .atomic rest
    | '<' :: '=' :: rest => lookBehind false rest
    | '<' :: '!' :: rest => lookBehind true rest
    | '<' :: rest | 'P' :: '<' :: rest => named '>' rest
    | '\'' :: rest => named '\'' rest
    | 'P' :: '=' :: rest =>
      match nameTo? ')' rest with
      | none => .error "subpattern name expected".toList
      | some (name, rest) => (backNode r name).map fun node => (node, { r with rest })
    | text =>
      match changedFlags true flags text with
      | (_, ':' :: rest) => do
        let (node, r) ← groupBody fuel changed { r with rest }
        return (node, r)
      | _ => .error "unrecognized character after (? or (?-".toList

end

end LookaroundReading

namespace Regex

/-- The expression with lookaround that a text spells. -/
def parseLookaround (text : Chars) : Except Chars Regex := do
  let (node, r) ← LookaroundReading.alternatives (8 * text.length + 16) ⟨false, false, false⟩
    ⟨text, 0, []⟩
  if r.rest ≠ [] then .error "unmatched closing parenthesis".toList
  else if LookaroundReading.greatestBack node > r.groups then
    .error "reference to non-existent subpattern".toList
  else return ⟨node, r.groups, false, false, true⟩

end Regex

end Shell

end TcpJournal
