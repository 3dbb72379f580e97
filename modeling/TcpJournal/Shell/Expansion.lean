import TcpJournal.Shell.Alteration
import TcpJournal.Shell.Braces
import TcpJournal.Shell.Reference

/-!
# Expansion of words

A word is expanded into cells: characters that remember whether they were
quoted and whether separators among them split the word.  Cells become fields,
fields that are patterns become paths, and quotes are gone at the end.  The
output of a command comes from the runner of commands, which is a parameter.
-/

namespace TcpJournal

namespace Shell

/-- A piece of an expanded word: a character, quotes that may be empty, or the
end of one of several arguments. -/
inductive Cell where
  | char (c : Char) (isQuoted splits : Bool)
  | quotes
  | fieldEnd
  deriving DecidableEq, Repr

/-- The cells of a text. -/
def textCells (text : Chars) (isQuoted splits : Bool) : List Cell :=
  text.map fun c => .char c isQuoted splits

/-- The cells of a value that an expansion puts into a word. -/
def valueCells (text : Chars) (isQuoted : Bool) : List Cell :=
  textCells text isQuoted !isQuoted

/-- The characters of cells without quotes; arguments are separated by a
character. -/
def cellText (separator : Chars) (cells : List Cell) : Chars :=
  cells.flatMap fun cell =>
    match cell with
    | .char c _ _ => [c]
    | .quotes => []
    | .fieldEnd => separator

/-- The characters of cells as a pattern takes them. -/
def cellMarks (cells : List Cell) : List MarkedChar :=
  cells.filterMap fun cell =>
    match cell with
    | .char c isQuoted _ => some (c, isQuoted)
    | .quotes => none
    | .fieldEnd => some (' ', false)

/-- The cells of the texts of a list. -/
def listCells (p : Process) (texts : List Chars) (isStar isQuoted splitting : Bool) : List Cell :=
  if isStar && (isQuoted || !splitting) then
    valueCells ((argumentSeparator p).intercalate texts) isQuoted
  else
    let cells := texts.map fun a =>
      (if isQuoted then [Cell.quotes] else []) ++ valueCells a isQuoted
    [Cell.fieldEnd].intercalate cells

/-- The cells of what a parameter holds. -/
def heldCells (p : Process) (held : Held) (isQuoted splitting : Bool) : List Cell :=
  match held with
  | .one value? => valueCells (value?.getD []) isQuoted
  | .many isStar texts => listCells p texts isStar isQuoted splitting

/-- A text without the line ends at its end and without null characters. -/
def withoutLastLineEnds (text : Chars) : Chars :=
  ((text.filter (· ≠ '\x00')).reverse.dropWhile (· = '\n')).reverse

/-- The directory that a tilde with a user's name stands for. -/
def homeDirectory? (p : Process) (user : Chars) : Option Chars :=
  if user = [] then p.value? "HOME".toList
  else if user = "root".toList then some "/root".toList
  else none

/-- A tilde at the start of a text with the directory that it stands for; it
has to reach a slash, the end of the word or, in an assignment, a colon. -/
def expandTilde (p : Process) (inAssignment isWhole : Bool) (text : Chars) : Word :=
  match text with
  | '~' :: rest =>
    let user := rest.takeWhile fun c => c ≠ '/' && !(inAssignment && c = ':')
    let after := rest.drop user.length
    match if after = [] && !isWhole then none else homeDirectory? p user with
    | some home => [.text home true, .text after false]
    | none => [.text text false]
  | text => [.text text false]

/-- The pieces of an assigned text behind each of its colons. -/
def colonPieces (text : Chars) : List Chars :=
  let (last, pieces) := text.foldr
    (fun c (piece, pieces) => if c = ':' then ([], piece :: pieces) else (c :: piece, pieces))
    ([], [])
  last :: pieces

/-- A word with its tildes expanded. -/
def withTildes (p : Process) (inAssignment : Bool) (word : Word) : Word :=
  match word with
  | .text text false :: rest =>
    if !text.contains '~' then word
    else if inAssignment then
      let pieces := (colonPieces text).map fun piece => expandTilde p true rest.isEmpty piece
      [Part.text [':'] false].intercalate pieces ++ rest
    else expandTilde p false rest.isEmpty text ++ rest
  | word => word

/-- What runs commands for words: one whose output is taken, and one that a path
leads to, from which or to which is read or written. -/
structure Substitute where
  output : Command → Action Chars
  channel : Bool → Command → Action Chars

/-- The pattern of characters in the language of a process: the extended one also
excludes the members of a set behind a caret. -/
def patternOf (p : Process) (marks : List MarkedChar) : List GlobItem :=
  let rec negated : List MarkedChar → List MarkedChar
    | ('[', false) :: ('^', false) :: rest => ('[', false) :: ('!', false) :: negated rest
    | mark :: rest => mark :: negated rest
    | [] => []
  Glob.ofText (if p.dialect = .plain then marks else negated marks)

mutual

/-- The cells of a word.  Unquoted text splits inside an expansion. -/
def wordCells (substitute : Substitute) (splitting inside : Bool) :
    List Part → Action (List Cell)
  | [] => return []
  | part :: rest => do
    let first ← partCells substitute splitting inside part
    return first ++ (← wordCells substitute splitting inside rest)

/-- The cells of a part. -/
def partCells (substitute : Substitute) (splitting inside : Bool) : Part → Action (List Cell)
  | .text content isQuoted =>
    if isQuoted then return .quotes :: textCells content true false
    else return textCells content false inside
  | .output body isQuoted => do
    return valueCells (withoutLastLineEnds (← substitute.output body)) isQuoted
  | .arithmetic expression isQuoted => do
    let cells ← wordCells substitute false false expression
    return valueCells (Decimal.ofInt (← arithmeticValue (cellText [' '] cells))) isQuoted
  | .parameter name form isQuoted => formCells substitute splitting name none isQuoted form
  | .element name subscript form isQuoted => do
    let cells ← wordCells substitute false false subscript
    let key ← match form with
      | .startingNames => pure (cellText [' '] cells)
      | _ => keyOf name (cellText [' '] cells)
    formCells substitute splitting name (some key) isQuoted form
  | .list _ => return []
  | .channel isOutput body => do
    return valueCells (← substitute.channel isOutput body) true

/-- The cells of a parameter in a form. -/
def formCells (substitute : Substitute) (splitting : Bool) (name : Chars) (key? : Option Chars)
    (isQuoted : Bool) : Form → Action (List Cell)
  | .plain => do
    let p ← get
    match held p name key? with
    | .one none => if p.has 'u' then unsetFault name (unsetReason p) else return []
    | h => return heldCells p h isQuoted splitting
  | .size => do
    let p ← get
    match held p name key? with
    | .many _ texts =>
      let joined := (argumentSeparator p).intercalate texts
      let size := if p.dialect = .plain then joined.length else texts.length
      return valueCells (Decimal.digits size) isQuoted
    | .one (some value) => return valueCells (Decimal.digits value.length) isQuoted
    | .one none =>
      if p.has 'u' then unsetFault name (unsetReason p) else return valueCells ['0'] isQuoted
  | .replaced how alsoEmpty word => do
    let p ← get
    let h := held p name key?
    let isThere := match h.text? p with
      | none => false
      | some value => !(alsoEmpty && value = [])
    match how with
    | .standIn =>
      if isThere then return heldCells p h isQuoted splitting
      else wordCells substitute splitting (!isQuoted) word
    | .alternative =>
      if isThere then wordCells substitute splitting (!isQuoted) word else return []
    | .assign =>
      if isThere then return heldCells p h isQuoted splitting
      else
        let cells ← wordCells substitute false false word
        let value := cellText [' '] cells
        if isName name then
          match key? with
          | none => Action.assign name value
          | some key => assignElement name key value
          return valueCells value isQuoted
        else Action.fault (name ++ ": bad variable name".toList)
    | .complain =>
      if isThere then return heldCells p h isQuoted splitting
      else
        let cells ← wordCells substitute false false word
        let reason := cellText [' '] cells
        let reason :=
          if reason ≠ [] then reason
          else if alsoEmpty then "parameter not set or null".toList
          else "parameter not set".toList
        unsetFault name reason
  | .cut side longest pattern => do
    let p ← get
    let h := held p name key?
    if h = .one none then
      if p.has 'u' then unsetFault name (unsetReason p) else return []
    else
      let marks := cellMarks (← wordCells substitute false false pattern)
      let cut (value : Chars) : Chars := Glob.cut (patternOf p marks) side longest value
      let p ← get
      match p.dialect with
      | .plain => return valueCells (cut ((h.text? p).getD [])) isQuoted
      | .extended => return heldCells p (h.map cut) isQuoted splitting
  | .slice offset isBounded length => do
    let p ← get
    let start ← arithmeticValue (cellText [' '] (← wordCells substitute false false offset))
    let size ← arithmeticValue (cellText [' '] (← wordCells substitute false false length))
    let size? := if isBounded then some size else none
    let missing {α : Type} : Action α :=
      Action.fault (Decimal.ofInt size ++ ": substring expression < 0".toList)
    match held p name key? with
    | .one none => if p.has 'u' then unsetFault name (unsetReason p) else return []
    | .one (some value) =>
      match Alteration.slice? true start size? value with
      | some text => return valueCells text isQuoted
      | none => missing
    | .many isStar texts =>
      let found? :=
        match key? with
        | none =>
          if start ≤ 0 then
            Alteration.slice? false (if start < 0 then start - 1 else start) size?
              (p.name :: texts)
          else Alteration.slice? false (start - 1) size? texts
        | some _ =>
          let e := elementsOf p name
          let start := if start < 0 && !e.isKeyed then start + e.nextIndex else start
          let behind := e.entries.filter fun entry =>
            e.isKeyed || start ≤ (Decimal.value entry.1 : Int)
          if start < 0 then some [] else Alteration.slice? false 0 size? (behind.map Prod.snd)
      match found? with
      | some texts => return listCells p texts isStar isQuoted splitting
      | none => missing
  | .exchanged place pattern replacement => do
    let p ← get
    let marks := cellMarks (← wordCells substitute false false pattern)
    let cells ← wordCells substitute false false replacement
    let p' ← get
    let filler := (cellMarks cells).map fun (c, isQuoted) =>
      if c = '&' && !isQuoted then none else some c
    let exchange (value : Chars) : Chars :=
      if marks = [] && (place = .first || place = .everywhere) then value
      else Alteration.exchange place (patternOf p' marks) filler value
    let h := held p name key?
    if h = .one none && p.has 'u' then unsetFault name (unsetReason p)
    else return heldCells p' (h.map exchange) isQuoted splitting
  | .recased change everywhere pattern => do
    let p ← get
    let marks := cellMarks (← wordCells substitute false false pattern)
    let h := held p name key?
    if h = .one none && p.has 'u' then unsetFault name (unsetReason p)
    else
      return heldCells p (h.map (Alteration.recase change everywhere (patternOf p marks)))
        isQuoted splitting
  | .named => do
    match (held (← get) name key?).text? (← get) with
    | none => Action.fault (name ++ ": invalid indirect expansion".toList)
    | some text =>
      let (name, key?) ← namedParameter text
      let p ← get
      match held p name key? with
      | .one none => if p.has 'u' then unsetFault name (unsetReason p) else return []
      | h => return heldCells p h isQuoted splitting
  | .keys => do
    let p ← get
    let keys := (elementsOf p name).entries.map Prod.fst
    return listCells p keys (key? = some ['*']) isQuoted splitting
  | .startingNames => do
    let p ← get
    let names := (p.bindings.map Prod.fst).filter fun other => name.isPrefixOf other
    return listCells p (names.mergeSort Glob.textLE) (key? = some ['*']) isQuoted splitting
  | .shown letter => do
    let p ← get
    let h := held p name key?
    let shown : Chars → Chars :=
      match letter with
      | 'Q' => Quotation.enclosed
      | 'U' => Alteration.recase .upper true []
      | 'u' => Alteration.recase .upper false []
      | 'L' => Alteration.recase .lower true []
      | 'E' => fun text => Alteration.unescaped (text.length + 1) text
      | 'A' => fun text => name ++ '=' :: Quotation.enclosed text
      | 'a' => fun _ => ((p.binding? name).map Variable.letters).getD []
      | _ => id
    return heldCells p (h.map shown) isQuoted splitting
  | .malformed => Action.fault "Bad substitution".toList

end

/-- Fields as far as they have been built. -/
structure Fields where
  closed : List (List MarkedChar)
  current : Option (List MarkedChar)
  afterBlank : Bool
  deriving DecidableEq, Repr

namespace Fields

/-- No fields yet. -/
def none : Fields := ⟨[], .none, false⟩

/-- Close the current field, if there is one. -/
def close (f : Fields) (afterBlank : Bool) : Fields :=
  match f.current with
  | some field => ⟨field.reverse :: f.closed, .none, afterBlank⟩
  | .none => f

/-- Add a cell.  Blank separators close a field; another separator closes a
field too, which is empty unless it only follows blanks. -/
def add (ifs : Chars) (f : Fields) : Cell → Fields
  | .quotes => { f with current := some (f.current.getD []) }
  | .fieldEnd => { f.close false with afterBlank := false }
  | .char c isQuoted splits =>
    if splits && ifs.contains c then
      if c = ' ' || c = '\t' || c = '\n' then f.close true
      else
        match f.current with
        | some _ => f.close false
        | .none =>
          if f.afterBlank then { f with afterBlank := false }
          else { f with closed := [] :: f.closed }
    else { f with current := some ((c, isQuoted) :: f.current.getD []) }

/-- The fields of cells. -/
def ofCells (ifs : Chars) (cells : List Cell) : List (List MarkedChar) :=
  ((cells.foldl (add ifs) none).close false).closed.reverse

end Fields

namespace Expansion

/-- The fields of a word without braces, with paths for patterns. -/
def bareFields (substitute : Substitute) (word : Word) : Action (List Chars) := do
  let cells ← wordCells substitute true false (withTildes (← get) false word)
  let p ← get
  return (Fields.ofCells (separators p) cells).flatMap fun field =>
    let found := if p.has 'f' then [] else Glob.paths p.world.files p.directory field
    if found ≠ [] then found
    else if Glob.isPattern field && !p.has 'f' && p.hasNamed "nullglob" then []
    else [field.map Prod.fst]

/-- The fields of a word, with paths for patterns. -/
def fields (substitute : Substitute) (word : Word) : Action (List Chars) := do
  if (← get).dialect = .plain then bareFields substitute word
  else return (← (Braces.words word).mapM (bareFields substitute)).flatten

/-- The fields of words. -/
def allFields (substitute : Substitute) : List Word → Action (List Chars)
  | [] => return []
  | word :: rest => do
    let first ← fields substitute word
    return first ++ (← allFields substitute rest)

/-- The text of a word that stays whole. -/
def text (substitute : Substitute) (word : Word) : Action Chars := do
  return cellText [' '] (← wordCells substitute false false (withTildes (← get) false word))

/-- The pattern that a word is. -/
def pattern (substitute : Substitute) (word : Word) : Action (List GlobItem) := do
  let cells ← wordCells substitute false false (withTildes (← get) false word)
  return patternOf (← get) (cellMarks cells)

/-- The value of an assigned word. -/
def assignedText (substitute : Substitute) (value : Word) : Action Chars := do
  return cellText [' '] (← wordCells substitute false false (withTildes (← get) true value))

/-- A text as a variable takes it: a number where one is declared, in the case that
is declared, behind what it holds if the text is appended. -/
def takenText (v : Variable) (held? : Option Chars) (appends : Bool) (text : Chars) :
    Action Chars := do
  let held := if appends then held?.getD [] else []
  if v.attributes.contains 'i' then
    let n ← arithmeticValue text
    let m ← if appends then arithmeticValue held else pure 0
    return Decimal.ofInt (wrap64 (m + n))
  else
    let text := held ++ text
    if v.attributes.contains 'u' then return text.map upperCase
    else if v.attributes.contains 'l' then return text.map lowerCase
    else return text

/-- The elements with the items of a list: those with a subscript under it, others
one after another. -/
def withItems (substitute : Substitute) (v : Variable) :
    Elements → Nat → List Word → Action Elements
  | e, _, [] => return e
  | e, next, item :: rest => do
    match Assignment.item? item with
    | some (subscript, appends, value) =>
      let subscript := cellText [' '] (← wordCells substitute false false subscript)
      let text ← assignedText substitute value
      let key ← if e.isKeyed then pure subscript else indexKey e (← arithmeticValue subscript)
      let text ← takenText v (e.find? key) appends text
      withItems substitute v (e.put key text) (Decimal.value key + 1) rest
    | none =>
      let texts ← fields substitute item
      if e.isKeyed then
        let value ← match rest with
          | [] => pure []
          | word :: _ => text substitute word
        match texts with
        | key :: _ => withItems substitute v (e.put key value) next (rest.drop 1)
        | [] => withItems substitute v e next rest
      else
        let texts ← texts.mapM fun text => takenText v none false text
        let e := (texts.zipIdx next).foldl
          (fun (e : Elements) (text, n) => e.put (Decimal.digits n) text) e
        withItems substitute v e (next + texts.length) rest
termination_by _ _ items => items.length

/-- Carry out an assignment; the answer is the text that shows it. -/
def assign (substitute : Substitute) (a : Assignment) : Action Chars := do
  let old (p : Process) : Variable := (p.binding? a.name).getD .fresh
  let sign := if a.appends then "+=".toList else ['=']
  match a.subscript, a.value with
  | none, [.list items] =>
    let v := old (← get)
    let isKeyed := (v.elements.map Elements.isKeyed).getD (v.attributes.contains 'A')
    let start := if a.appends then v.toElements else Elements.none isKeyed
    if v.isReadOnly then Action.fault (a.name ++ ": readonly variable".toList)
    let e ← withItems substitute v start start.nextIndex items
    modify fun p => p.bind a.name { old p with value := none, elements := some e }
    return a.name ++ sign ++ "()".toList
  | none, value =>
    let text ← assignedText substitute value
    let p ← get
    let taken ← takenText (old p) (p.value? a.name) a.appends text
    Action.assign a.name taken
    return a.name ++ sign ++ text
  | some subscript, value =>
    let subscript := cellText [' '] (← wordCells substitute false false subscript)
    let text ← assignedText substitute value
    let key ← keyOf a.name subscript
    let p ← get
    let taken ← takenText (old p) ((elementsOf p a.name).find? key) a.appends text
    assignElement a.name key taken
    return a.name ++ '[' :: subscript ++ ']' :: sign ++ text

/-- The text of an argument that is an assignment, in which a list stays apart. -/
def assignmentText (substitute : Substitute) (a : Assignment) : Action Chars := do
  let sign := if a.appends then "+=".toList else ['=']
  match a.subscript, a.value with
  | none, value => return a.name ++ sign ++ (← assignedText substitute value)
  | some subscript, value =>
    let subscript := cellText [' '] (← wordCells substitute false false subscript)
    return a.name ++ '[' :: subscript ++ ']' :: sign ++ (← assignedText substitute value)

end Expansion

end Shell

end TcpJournal
