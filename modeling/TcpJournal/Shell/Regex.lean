import TcpJournal.Decimal
import TcpJournal.Shell.Glob

/-!
# Regular expressions

Expressions are read in a basic or an extended spelling.  A search finds the
leftmost match and, among those that start there, the longest; the groups are
those of the first way to reach that end in which every repetition takes as
much as it can.  An expression may also prefer the first way to any match over
the longest one.
-/

namespace TcpJournal

namespace Shell

/-- The spelling of an expression.  The strict spellings refuse signs of
repetition in some places where they make no sense; the others take them for
themselves or for nothing. -/
inductive RegexSpelling where
  | basic
  | strictBasic
  | extended
  | lenient
  | pattern
  deriving DecidableEq, Repr

/-- A regular expression. -/
inductive RegexNode where
  | empty
  | char (c : Char)
  | anyChar
  | oneOf (excluded : Bool) (members : List SetMember)
  | textStart
  | textEnd
  | lineStart
  | lineEnd
  | wordEdge (isStart isEnd : Bool)
  | insideWord
  | both (left right : RegexNode)
  | either (left right : RegexNode)
  | repeated (body : RegexNode) (least : Nat) (most : Option Nat)
  | reluctant (body : RegexNode) (least : Nat) (most : Option Nat)
  | atomic (body : RegexNode)
  | ahead (negated : Bool) (body : RegexNode)
  | behind (negated : Bool) (body : RegexNode)
  | matchStart
  | group (index : Nat) (body : RegexNode)
  | back (index : Nat)
  deriving DecidableEq, Repr

/-- A regular expression with its number of groups and its flags. -/
structure Regex where
  node : RegexNode
  groupCount : Nat
  ignoresCase : Bool
  byLine : Bool
  prefersFirst : Bool
  deriving DecidableEq, Repr

/-- A place reached in a match, the groups so far, and where the match is said to
start if that is elsewhere. -/
structure RegexState where
  place : Nat
  groups : List (Nat × Nat × Nat)
  start : Option Nat
  deriving DecidableEq, Repr

/-- A match: where it starts and stops, and its groups. -/
structure RegexMatch where
  start : Nat
  stop : Nat
  groups : List (Nat × Nat × Nat)
  deriving DecidableEq, Repr

/-- Signs of groups and alternatives are protected ones. -/
def RegexSpelling.isBasic : RegexSpelling → Bool
  | basic | strictBasic => true
  | extended | lenient | pattern => false

namespace RegexMatch

/-- The part of a text that a group matched; group zero is the whole match. -/
def groupText (m : RegexMatch) (text : Chars) (index : Nat) : Chars :=
  if index = 0 then (text.take m.stop).drop m.start
  else
    match m.groups.lookup index with
    | some (start, stop) => (text.take stop).drop start
    | none => []

end RegexMatch

/-- A character of words. -/
def isWordChar (c : Char) : Bool := isNameChar c

namespace RegexNode

/-- The node looks back at what a group matched. -/
def looksBack : RegexNode → Bool
  | both left right | either left right => left.looksBack || right.looksBack
  | repeated body .. | reluctant body .. | atomic body | ahead _ body | behind _ body
  | group _ body => body.looksBack
  | back _ => true
  | _ => false

/-- A set holds the colons of the name of a class that is not written inside another
set. -/
def misspellsClass : RegexNode → Bool
  | both left right | either left right => left.misspellsClass || right.misspellsClass
  | repeated body .. | reluctant body .. | atomic body | ahead _ body | behind _ body
  | group _ body => body.misspellsClass
  | oneOf _ members =>
    let chars := members.map fun m => match m with
      | .range c d => if c = d then some c else none
      | .characterClass _ => none
    chars.head? = some (some ':') && chars.getLast? = some (some ':') &&
      chars.all Option.isSome && chars.any (· ≠ some ':')
  | _ => false

/-- Different states, the first of each.  Where no group is looked at again,
states with one place are the same. -/
def distinct (tellsGroups : Bool) (size : Nat) (states : List RegexState) : List RegexState :=
  match states with
  | [] | [_] => states
  | states =>
    if tellsGroups then
      (states.foldl
        (fun (found : List RegexState) s => if found.contains s then found else s :: found)
        []).reverse
    else
      (states.foldl
        (fun (found : List RegexState × Array Bool) s =>
          if found.2.getD s.place false then found
          else (s :: found.1, found.2.set! s.place true))
        ([], Array.replicate (size + 1) false)).1.reverse

/-- The states behind repetitions of a step, those of more repetitions first
unless the repetition is reluctant. -/
def repetitions (isReluctant : Bool) (step : RegexState → List RegexState) :
    Nat → Nat → Option Nat → RegexState → List RegexState
  | 0, _, _, s => [s]
  | fuel + 1, least, most, s =>
    if most = some 0 then [s]
    else
      let next := (step s).filter fun t => s.place < t.place || least > 0
      let more := next.flatMap
        (repetitions isReluctant step fuel (least - 1) (most.map (· - 1)))
      if least > 0 then more else if isReluctant then s :: more else more ++ [s]

/-- The number of characters in a row, from a place on, that have a property. -/
def runLength (text : Array Char) (holds : Char → Bool) : Nat → Nat → Nat
  | 0, _ => 0
  | fuel + 1, place =>
    match text[place]? with
    | some c => if holds c then runLength text holds fuel (place + 1) + 1 else 0
    | none => 0

/-- The property that a node asks of one character, if it is that simple. -/
def charTest? (node : RegexNode) (ignoresCase : Bool) : Option (Char → Bool) :=
  let same (c d : Char) : Bool := c = d || (ignoresCase && lower c = lower d)
  match node with
  | char c => some fun d => same c d
  | anyChar => some fun _ => true
  | oneOf excluded members =>
    some fun d =>
      let isMember : Bool := members.any (·.holds d) ||
        (ignoresCase && members.any fun m => m.holds (lower d) || m.holds (upper d))
      isMember != excluded
  | _ => none
where
  /-- An ASCII letter in lower case. -/
  lower (c : Char) : Char := if 'A' ≤ c && c ≤ 'Z' then Char.ofNat (c.toNat + 32) else c
  /-- An ASCII letter in upper case. -/
  upper (c : Char) : Char := if 'a' ≤ c && c ≤ 'z' then Char.ofNat (c.toNat - 32) else c

/-- A text has the given characters from a place on. -/
def hasAt (text : Array Char) (ignoresCase : Bool) (place : Nat) : Chars → Bool
  | [] => true
  | c :: rest =>
    match text[place]?, charTest? (.char c) ignoresCase with
    | some d, some test => test d && hasAt text ignoresCase (place + 1) rest
    | _, _ => false

/-- How a text is matched: its characters, whether cases and lines count, and
whether states with different groups are different. -/
structure Setting where
  text : Array Char
  ignoresCase : Bool
  byLine : Bool
  tellsGroups : Bool

/-- The state behind one character. -/
def single (w : Setting) (node : RegexNode) (s : RegexState) : List RegexState :=
  match w.text[s.place]?, charTest? node w.ignoresCase with
  | some d, some test => if test d then [{ s with place := s.place + 1 }] else []
  | _, _ => []

/-- A character of words stands in front of a place, and one stands at it. -/
def wordSides (w : Setting) (place : Nat) : Bool × Bool :=
  (place > 0 && (w.text[place - 1]?).any isWordChar, (w.text[place]?).any isWordChar)

/-- The states that a node reaches from one, the preferred ones first. -/
def run (w : Setting) : RegexNode → RegexState → List RegexState
  | empty, s => [s]
  | textStart, s => if s.place = 0 then [s] else []
  | textEnd, s => if s.place = w.text.size then [s] else []
  | lineStart, s =>
    if s.place = 0 || (w.byLine && w.text[s.place - 1]? = some '\n') then [s] else []
  | lineEnd, s =>
    if s.place = w.text.size || (w.byLine && w.text[s.place]? = some '\n') then [s] else []
  | wordEdge isStart isEnd, s =>
    let (before, after) := wordSides w s.place
    if (isStart && !before && after) || (isEnd && before && !after) then [s] else []
  | insideWord, s =>
    let (before, after) := wordSides w s.place
    if before = after then [s] else []
  | matchStart, s => [{ s with start := some s.place }]
  | both left right, s =>
    distinct w.tellsGroups w.text.size ((run w left s).flatMap (run w right))
  | either left right, s =>
    distinct w.tellsGroups w.text.size (run w left s ++ run w right s)
  | repeated body least most, s =>
    match charTest? body w.ignoresCase with
    | some test =>
      let limit := min (w.text.size - s.place) (most.getD w.text.size)
      let found := runLength w.text test limit s.place
      if found < least then []
      else (List.range (found + 1 - least)).map fun i => { s with place := s.place + (found - i) }
    | none =>
      distinct w.tellsGroups w.text.size
        (repetitions false (run w body) (w.text.size + least + 2) least most s)
  | reluctant body least most, s =>
    distinct w.tellsGroups w.text.size
      (repetitions true (run w body) (w.text.size + least + 2) least most s)
  | atomic body, s => (run w body s).take 1
  | ahead negated body, s =>
    match run w body s with
    | [] => if negated then [s] else []
    | t :: _ => if negated then [] else [{ t with place := s.place }]
  | behind negated body, s =>
    let found := (List.range (s.place + 1)).findSome? fun n =>
      (run w body { s with place := s.place - n }).find? fun t => t.place = s.place
    match found with
    | none => if negated then [s] else []
    | some t => if negated then [] else [t]
  | group index body, s =>
    (run w body s).map fun t =>
      { t with groups := (index, s.place, t.place) :: t.groups.filter fun g => g.1 ≠ index }
  | back index, s =>
    match s.groups.lookup index with
    | none => []
    | some (start, stop) =>
      let part := ((w.text.toList.take stop).drop start)
      if hasAt w.text w.ignoresCase s.place part then [{ s with place := s.place + part.length }]
      else []
  | char c, s => single w (.char c) s
  | anyChar, s => single w .anyChar s
  | oneOf excluded members, s => single w (.oneOf excluded members) s

end RegexNode

namespace Regex

/-- What is said about the name of a class outside of a set. -/
def misspelling : Chars := "character class syntax is [[:space:]], not [:space:]".toList

/-- The expression, unless it misspells a class. -/
def unlessMisspelt (r : Regex) : Except Chars Regex :=
  if r.node.misspellsClass then .error misspelling else .ok r

/-- The states that the expression reaches from a place, the preferred ones
first. -/
def statesAt (r : Regex) (text : Array Char) (start : Nat) : List RegexState :=
  r.node.run ⟨text, r.ignoresCase, r.byLine, r.node.looksBack⟩ ⟨start, [], none⟩

/-- The state that makes the match: the first one, or the first of those that
reach farthest. -/
def bestState? (r : Regex) (states : List RegexState) : Option RegexState :=
  if r.prefersFirst then states.head?
  else
    states.foldl
      (fun (best : Option RegexState) s =>
        match best with
        | none => some s
        | some b => if b.place < s.place then some s else best) none

/-- The match that ends in a state. -/
def matchOf (start : Nat) (s : RegexState) : RegexMatch := ⟨s.start.getD start, s.place, s.groups⟩

/-- The longest match that starts at a place of a text. -/
def longestAt (r : Regex) (text : Array Char) (start : Nat) : Option RegexMatch :=
  (r.bestState? (r.statesAt text start)).map (matchOf start)

/-- The longest match at a place of a text. -/
def matchAt (r : Regex) (text : Chars) (start : Nat) : Option RegexMatch :=
  r.longestAt text.toArray start

/-- The first match in a text from a place on. -/
def searchFrom (r : Regex) (text : Array Char) : Nat → Nat → Option RegexMatch
  | 0, _ => none
  | fuel + 1, start =>
    match r.longestAt text start with
    | some found => some found
    | none => searchFrom r text fuel (start + 1)

/-- The first match in a text from a place on. -/
def search (r : Regex) (text : Array Char) (start : Nat) : Option RegexMatch :=
  if start > text.size then none else r.searchFrom text (text.size + 1 - start) start

/-- The expression matches somewhere in a text. -/
def matchesIn (r : Regex) (text : Chars) : Bool :=
  (r.search text.toArray 0).isSome

end Regex

/-- What is left of an expression's text while it is read, and the groups. -/
structure RegexReading where
  rest : Chars
  groups : Nat
  closed : List Nat

namespace RegexReading

/-- The members of a set behind its opening bracket.  In patterns that know
escapes, a backslash protects the next character. -/
def members (escapes : Bool) : Nat → Bool → Chars → Except Chars (List SetMember × Chars)
  | 0, _, _ => .error "Unmatched [, [^, [:, [., or [=".toList
  | _, _, [] => .error "Unmatched [, [^, [:, [., or [=".toList
  | fuel + 1, isFirst, c :: rest =>
    if c = ']' && !isFirst then .ok ([], rest)
    else
      let special := if c = '[' then bracket rest else none
      let fault? := if c = '[' && special.isNone then bracketFault? rest else none
      if let some fault := fault? then .error fault
      else
        match special with
        | some (member, after) =>
          (members escapes fuel false after).map fun (more, rest) => (member :: more, rest)
        | none =>
          let (first, rest) := match c, rest with
            | '\\', d :: more => if escapes then (escapedChar d, more) else (c, rest)
            | c, rest => (c, rest)
          match rest with
          | '-' :: d :: after =>
            if d = ']' then
              (members escapes fuel false rest).map fun (more, rest) =>
                (.range first first :: more, rest)
            else
              let (last, after) := match d, after with
                | '[', '.' :: e :: '.' :: ']' :: more => (e, more)
                | '\\', e :: more => if escapes then (escapedChar e, more) else (d, after)
                | d, after => (d, after)
              if last < first then .error "Invalid range end".toList
              else
                (members escapes fuel false after).map fun (more, rest) =>
                  (.range first last :: more, rest)
          | rest =>
            (members escapes fuel false rest).map fun (more, rest) =>
              (.range first first :: more, rest)
where
  /-- The character that a protected one stands for. -/
  escapedChar (c : Char) : Char :=
    match c with
    | 'n' => '\n'
    | 't' => '\t'
    | c => c
  /-- What is wrong with inner brackets that hold no class and no single element. -/
  bracketFault? (text : Chars) : Option Chars :=
    match text with
    | mark :: rest =>
      let isClosed : Bool := (List.range rest.length).any fun i =>
        [mark, ']'].isPrefixOf (rest.drop i)
      if mark = ':' then
        let name := rest.takeWhile fun c => 'a' ≤ c && c ≤ 'z'
        if [':', ']'].isPrefixOf (rest.drop name.length) || (isClosed && !escapes) then
          some "Invalid character class name".toList
        else if escapes then none
        else some "Unmatched [, [^, [:, [., or [=".toList
      else if escapes || (mark ≠ '.' && mark ≠ '=') then none
      else if isClosed then some "Invalid collation character".toList
      else some "Unmatched [, [^, [:, [., or [=".toList
    | [] => none
  /-- A class or a single element in inner brackets. -/
  bracket (text : Chars) : Option (SetMember × Chars) :=
    match text with
    | ':' :: rest =>
      let name := rest.takeWhile (· ≠ ':')
      match rest.drop name.length with
      | ':' :: ']' :: after =>
        if classNames.contains name then some (.characterClass name, after) else none
      | _ => none
    | '.' :: c :: '.' :: ']' :: after => some (.range c c, after)
    | '=' :: c :: '=' :: ']' :: after => some (.range c c, after)
    | _ => none

/-- The bounds of an interval up to its closing sign. -/
def interval? (close : Chars) (text : Chars) : Option (Nat × Option Nat × Chars) :=
  let low := text.takeWhile Text.isDigit
  let rest := text.drop low.length
  let (most, rest) : Option Nat × Chars := match rest with
    | ',' :: more =>
      let high := more.takeWhile Text.isDigit
      (if high = [] then none else some (Decimal.value high), more.drop high.length)
    | rest => (some (Decimal.value low), rest)
  let hasBound : Bool := low ≠ [] || (text.head? = some ',' && text.length > 1)
  if hasBound && close.isPrefixOf rest then
    some (Decimal.value low, most, rest.drop close.length)
  else none

/-- The expression of a letter behind a backslash. -/
def escape? (c : Char) : Option RegexNode :=
  let word : List SetMember :=
    [.range 'a' 'z', .range 'A' 'Z', .range '0' '9', .range '_' '_']
  let space : List SetMember := [.characterClass "space".toList]
  match c with
  | 'w' => some (.oneOf false word)
  | 'W' => some (.oneOf true word)
  | 's' => some (.oneOf false space)
  | 'S' => some (.oneOf true space)
  | 'b' => some (.wordEdge true true)
  | 'B' => some .insideWord
  | '<' => some (.wordEdge true false)
  | '>' => some (.wordEdge false true)
  | '\x60' => some .textStart
  | '\'' => some .textEnd
  | _ => none

/-- Where in an expression a piece stands: it is the first one of a branch, or
has only anchors in front of it after which a sign of repetition has no sense. -/
structure Position where
  spelling : RegexSpelling
  isFirst : Bool
  isStart : Bool
  depth : Nat
  deriving DecidableEq, Repr

/-- The text closes a group or starts an alternative. -/
def endsBranch (p : Position) (text : Chars) : Bool :=
  match p.spelling.isBasic, text with
  | true, '\\' :: ')' :: _ => p.depth > 0
  | true, '\\' :: '|' :: _ => true
  | true, _ => false
  | _, ')' :: _ => p.depth > 0
  | _, '|' :: _ => true
  | _, _ => false

/-- The greatest bound of an interval. -/
def mostRepetitions : Nat := 32767

/-- The repetitions behind a piece. -/
def repeats (p : Position) : Nat → RegexNode → Chars → Except Chars (RegexNode × Chars)
  | 0, node, text => .ok (node, text)
  | fuel + 1, node, text =>
    let isBasic : Bool := p.spelling.isBasic
    let isDoubled : Bool := p.spelling = .strictBasic &&
      (match node with
        | .repeated .. => text.head? = some '*' || text.take 2 = ['\\', '\x7b']
        | _ => false)
    if isDoubled then .error "Invalid preceding regular expression".toList
    else
    match text with
    | '*' :: rest => repeats p fuel (.repeated node 0 none) rest
    | '+' :: rest =>
      if isBasic then .ok (node, text) else repeats p fuel (.repeated node 1 none) rest
    | '?' :: rest =>
      if isBasic then .ok (node, text) else repeats p fuel (.repeated node 0 (some 1)) rest
    | '\x7b' :: rest =>
      if isBasic || p.spelling = .pattern then .ok (node, text)
      else
        match interval? ['\x7d'] rest with
        | some (least, most, rest) =>
          if most.any (· < least) then .error "Invalid content of \\\x7b\\\x7d".toList
          else if max least (most.getD 0) > mostRepetitions then
            .error "Regular expression too big".toList
          else repeats p fuel (.repeated node least most) rest
        | none =>
          if p.spelling = .extended then .error "Unmatched \\\x7b".toList else .ok (node, text)
    | '\\' :: '+' :: rest =>
      if isBasic then repeats p fuel (.repeated node 1 none) rest else .ok (node, text)
    | '\\' :: '?' :: rest =>
      if isBasic then repeats p fuel (.repeated node 0 (some 1)) rest else .ok (node, text)
    | '\\' :: '\x7b' :: rest =>
      if isBasic then
        match interval? ['\\', '\x7d'] rest with
        | some (least, most, rest) =>
          if most.any (· < least) then .error "Invalid content of \\\x7b\\\x7d".toList
          else if max least (most.getD 0) > mostRepetitions then
            .error "Regular expression too big".toList
          else repeats p fuel (.repeated node least most) rest
        | none => .error "Unmatched \\\x7b".toList
      else .ok (node, text)
    | text => .ok (node, text)

/-- The expression stands for a place and no character; what follows it stands
at a start. -/
def isAnchor : RegexNode → Bool
  | .textStart | .textEnd | .lineStart | .lineEnd | .wordEdge .. | .insideWord => true
  | _ => false

mutual

/-- Alternatives up to the end of the text or of a group. -/
def alternatives : Nat → Position → RegexReading → Except Chars (RegexNode × RegexReading)
  | 0, _, _ => .error "Regular expression too big".toList
  | fuel + 1, p, r => do
    let (first, r) ← branch fuel { p with isFirst := true, isStart := true } .empty r
    let rest? := match p.spelling.isBasic, r.rest with
      | true, '\\' :: '|' :: rest => some rest
      | true, _ => none
      | _, '|' :: rest => some rest
      | _, _ => none
    match rest? with
    | none =>
      if p.spelling = .pattern && p.depth > 0 && first = .empty then
        .error "missing operand".toList
      else return (first, r)
    | some rest =>
      let (second, r) ← alternatives fuel p { r with rest }
      if p.spelling = .pattern && (first = .empty || second = .empty) then
        .error "missing operand".toList
      else return (.either first second, r)

/-- Pieces one after another, behind those that have been read. -/
def branch : Nat → Position → RegexNode → RegexReading → Except Chars (RegexNode × RegexReading)
  | 0, _, _, _ => .error "Regular expression too big".toList
  | fuel + 1, p, before, r =>
    if r.rest = [] || endsBranch p r.rest then .ok (before, r)
    else do
      let (node, repeatable, r) ← piece fuel p r
      let (node, rest) ←
        if repeatable then repeats p (r.rest.length + 1) node r.rest else .ok (node, r.rest)
      let isStart : Bool := isAnchor node && match p.spelling with
        | .strictBasic | .extended => true
        | .basic | .lenient | .pattern => p.isStart
      branch fuel { p with isFirst := false, isStart }
        (if before = .empty then node else .both before node) { r with rest }

/-- One piece, and whether it can be repeated. -/
def piece : Nat → Position → RegexReading → Except Chars (RegexNode × Bool × RegexReading)
  | 0, _, _ => .error "Regular expression too big".toList
  | fuel + 1, p, r =>
    let isBasic : Bool := p.spelling.isBasic
    let group (rest : Chars) : Except Chars (RegexNode × Bool × RegexReading) := do
      let index := r.groups + 1
      let (node, after) ←
        alternatives fuel { p with depth := p.depth + 1 } { r with rest, groups := index }
      let rest? := match isBasic, after.rest with
        | true, '\\' :: ')' :: rest => some rest
        | false, ')' :: rest => some rest
        | _, _ => none
      match rest? with
      | some rest =>
        return (.group index node, true, { after with rest, closed := index :: after.closed })
      | none => .error "Unmatched ( or \\(".toList
    match r.rest with
    | [] => .ok (.empty, false, r)
    | '.' :: rest => .ok (.anyChar, true, { r with rest })
    | '[' :: rest =>
      let (excluded, inside) := match rest with
        | '^' :: inside => (true, inside)
        | inside => (false, inside)
      match members (p.spelling = .pattern) (inside.length + 1) true inside with
      | .error e => .error e
      | .ok (found, rest) => .ok (.oneOf excluded found, true, { r with rest })
    | '^' :: rest =>
      if p.spelling = .pattern && (rest.head? = some '*' || rest.head? = some '+') then
        .error "syntax error ^* or ^+".toList
      else if !isBasic || p.isFirst then
        .ok (.lineStart, !isBasic && p.spelling ≠ .extended, { r with rest })
      else .ok (.char '^', true, { r with rest })
    | '$' :: rest =>
      if !isBasic || rest = [] || endsBranch p rest then
        .ok (.lineEnd, !isBasic && p.spelling ≠ .extended, { r with rest })
      else .ok (.char '$', true, { r with rest })
    | '(' :: rest => if isBasic then .ok (.char '(', true, { r with rest }) else group rest
    | '\\' :: '(' :: rest =>
      if isBasic then group rest else .ok (.char '(', true, { r with rest })
    | '\\' :: '\x7b' :: rest =>
      if p.spelling = .strictBasic && p.isStart then
        .error "Invalid preceding regular expression".toList
      else .ok (.char '\x7b', true, { r with rest })
    | ['\\'] => .error "Trailing backslash".toList
    | '\\' :: c :: rest =>
      if isBasic && c = ')' then .error "Unmatched ) or \\)".toList
      else if Text.isDigit c && c ≠ '0' && p.spelling ≠ .pattern then
        let index := Decimal.digitValue c
        if r.closed.contains index then .ok (.back index, true, { r with rest })
        else .error "Invalid back reference".toList
      else
        match if p.spelling = .pattern then none else escape? c with
        | some node =>
          let repeats : Bool := p.spelling = .lenient || !isAnchor node
          .ok (node, repeats, { r with rest })
        | none =>
          let d := if p.spelling = .pattern then (patternEscape c) else c
          .ok (.char d, true, { r with rest })
    | c :: rest =>
      let repeats : Bool := c = '*' || c = '+' || c = '?' ||
        (c = '\x7b' && p.spelling ≠ .pattern && (interval? ['\x7d'] rest).isSome)
      if p.spelling = .extended && c = ')' then .error "Unmatched ) or \\)".toList
      else if !isBasic && p.isStart && (repeats || (p.spelling = .extended && c = '\x7b')) then
        if p.spelling = .extended || p.spelling = .pattern then
          .error "Invalid preceding regular expression".toList
        else if p.spelling = .lenient then
          let rest := if c = '\x7b' then ((interval? ['\x7d'] rest).map fun i => i.2.2).getD rest
            else rest
          .ok (.repeated .empty 0 none, true, { r with rest })
        else .ok (.char c, true, { r with rest })
      else .ok (.char c, true, { r with rest })
where
  /-- The character that a protected one stands for in a pattern. -/
  patternEscape (c : Char) : Char :=
    match c with
    | 'n' => '\n'
    | 't' => '\t'
    | 'r' => '\x0d'
    | 'f' => '\x0c'
    | 'v' => '\x0b'
    | 'a' => '\x07'
    | 'b' => '\x08'
    | c => c

end

end RegexReading

namespace Regex

/-- The expression that a text spells. -/
def parse (spelling : RegexSpelling) (text : Chars) : Except Chars Regex := do
  let (node, r) ←
    RegexReading.alternatives (8 * text.length + 16) ⟨spelling, true, true, 0⟩ ⟨text, 0, []⟩
  match r.rest with
  | [] => return ⟨node, r.groups, false, false, false⟩
  | _ => .error "Unmatched ) or \\)".toList

/-- The expression that matches a text as it stands. -/
def literal (text : Chars) : Regex :=
  ⟨text.foldr (fun c rest => if rest = .empty then .char c else .both (.char c) rest) .empty,
    0, false, false, false⟩

end Regex

end Shell

end TcpJournal
