import TcpJournal.FileTree
import TcpJournal.Shell.Syntax
import TcpJournal.Text

/-!
# Patterns

A pattern matches whole texts: a star stands for any text, a question mark for
one character, and brackets for one character of a set.  Characters in quotes
stand for themselves.  The same patterns choose among names of files
(`Glob.paths`) and cut texts off values (`Glob.cut`).
-/

namespace TcpJournal

namespace Shell

/-- A character with a flag that says whether it is quoted. -/
abbrev MarkedChar := Char × Bool

/-- A member of a set of characters. -/
inductive SetMember where
  | range (first last : Char)
  | characterClass (name : List Char)
  deriving DecidableEq, Repr

/-- A piece of a pattern. -/
inductive GlobItem where
  | anyText
  | anyChar
  | literal (c : Char)
  | oneOf (excluded : Bool) (members : List SetMember)
  deriving DecidableEq, Repr

/-- A character belongs to a named class. -/
def inClass (name : Chars) (c : Char) : Bool :=
  let isUpper : Bool := 'A' ≤ c && c ≤ 'Z'
  let isLower : Bool := 'a' ≤ c && c ≤ 'z'
  let isGraph : Bool := '!' ≤ c && c ≤ '~'
  match String.ofList name with
  | "alpha" => isUpper || isLower
  | "digit" => Text.isDigit c
  | "alnum" => Text.isAlphanumeric c
  | "upper" => isUpper
  | "lower" => isLower
  | "space" => c = ' ' || ('\t' ≤ c && c ≤ '\x0d')
  | "blank" => c = ' ' || c = '\t'
  | "punct" => isGraph && !Text.isAlphanumeric c
  | "print" => isGraph || c = ' '
  | "graph" => isGraph
  | "cntrl" => c.toNat < 32 || c.toNat = 127
  | "xdigit" => (Text.hexValue? c).isSome
  | _ => false

/-- The names of the classes. -/
def classNames : List Chars :=
  ["alpha", "digit", "alnum", "upper", "lower", "space", "blank", "punct", "print", "graph",
   "cntrl", "xdigit"].map String.toList

namespace SetMember

/-- A character is described by a member. -/
def holds (member : SetMember) (c : Char) : Bool :=
  match member with
  | range first last => first ≤ c && c ≤ last
  | characterClass name => inClass name c

end SetMember

namespace Glob

/-- The class whose name stands between colons at the front, and the characters
behind it. -/
def classAt? (text : List MarkedChar) : Option (Chars × List MarkedChar) :=
  match text with
  | (':', false) :: rest =>
    let name := (rest.map Prod.fst).takeWhile fun c => c ≠ ':' && c ≠ ']'
    match rest.drop name.length with
    | (':', _) :: (']', _) :: after => if classNames.contains name then some (name, after) else none
    | _ => none
  | _ => none

/-- The members of a set behind its opening bracket, up to the closing one.
The first character is a member even if it is a bracket. -/
def members? : Nat → Bool → List MarkedChar → Option (List SetMember × List MarkedChar)
  | 0, _, _ => none
  | _, _, [] => none
  | fuel + 1, isFirst, (c, quoted) :: rest =>
    if c = ']' && !quoted && !isFirst then some ([], rest)
    else
      let found := if c = '[' && !quoted then classAt? rest else none
      match found with
      | some (name, after) =>
        (members? fuel false after).map fun (members, rest) =>
          (.characterClass name :: members, rest)
      | none =>
        match rest with
        | ('-', false) :: (d, q) :: after =>
          if d = ']' && !q then
            (members? fuel false rest).map fun (members, rest) => (.range c c :: members, rest)
          else
            (members? fuel false after).map fun (members, rest) => (.range c d :: members, rest)
        | rest =>
          (members? fuel false rest).map fun (members, rest) => (.range c c :: members, rest)

/-- The pieces of a pattern. -/
def items : Nat → List MarkedChar → List GlobItem
  | 0, _ => []
  | _, [] => []
  | fuel + 1, (c, quoted) :: rest =>
    if quoted then .literal c :: items fuel rest
    else if c = '*' then .anyText :: items fuel rest
    else if c = '?' then .anyChar :: items fuel rest
    else if c = '[' then
      let (excluded, inside) := match rest with
        | ('!', false) :: inside => (true, inside)
        | inside => (false, inside)
      match members? (inside.length + 1) true inside with
      | some (members, after) => .oneOf excluded members :: items fuel after
      | none => .literal c :: items fuel rest
    else .literal c :: items fuel rest

/-- The pattern of a text, in which a backslash without quotes protects the
character behind it. -/
def ofText (text : List MarkedChar) : List GlobItem :=
  let rec protect : List MarkedChar → List MarkedChar
    | ('\\', false) :: (c, _) :: rest => (c, true) :: protect rest
    | entry :: rest => entry :: protect rest
    | [] => []
  items (text.length + 1) (protect text)

/-- A piece other than a star matches a character. -/
def accepts (item : GlobItem) (c : Char) : Bool :=
  match item with
  | .anyText => false
  | .anyChar => true
  | .literal d => c = d
  | .oneOf excluded members => members.any (·.holds c) != excluded

/-- Some end of a text, the whole text included, has a property. -/
def someEnd (holds : Chars → Bool) : Chars → Bool
  | [] => holds []
  | c :: rest => holds (c :: rest) || someEnd holds rest

/-- A pattern matches a whole text. -/
def matchesAll : List GlobItem → Chars → Bool
  | [], text => text.isEmpty
  | .anyText :: rest, text => someEnd (matchesAll rest) text
  | item :: rest, text =>
    match text with
    | [] => false
    | c :: after => accepts item c && matchesAll rest after

/-- A value without its shortest or longest start or end that matches. -/
def cut (pattern : List GlobItem) (side : CutEnd) (longest : Bool) (value : Chars) : Chars :=
  let sizes := List.range (value.length + 1)
  let kept (size : Nat) : Chars × Chars :=
    match side with
    | .front => (value.take size, value.drop size)
    | .back => (value.drop (value.length - size), value.take (value.length - size))
  match (if longest then sizes.reverse else sizes).find? fun n => matchesAll pattern (kept n).1 with
  | some size => (kept size).2
  | none => value

/-- A name can be chosen by a pattern: a hidden one only by a pattern that
starts with its dot. -/
def choosesName (pattern : List GlobItem) (name : Chars) : Bool :=
  (name.head? ≠ some '.' || pattern.head? = some (.literal '.')) && matchesAll pattern name

/-- The order of texts by their characters. -/
def textLE (a b : Chars) : Bool := !decide (b < a)

/-- A text between its slashes. -/
def splitMarked (text : List MarkedChar) : List (List MarkedChar) :=
  let (last, names) := text.foldr
    (fun c (name, names) => if c.1 = '/' then ([], name :: names) else (c :: name, names)) ([], [])
  last :: names

/-- The paths behind a start that the names of a pattern choose. -/
def pathsFrom (tree : FileTree) (directory : FilePath) (start : Chars) :
    List (List MarkedChar) → List Chars
  | [] => [start]
  | name :: rest =>
    let place := tree.find directory (if start = [] then ['.'] else start)
    let pattern := ofText name
    let close (text : Chars) : Chars := if rest = [] then text else text ++ ['/']
    let plain := pattern.all fun item => match item with
      | .literal _ => true
      | _ => false
    if plain then
      let next := start ++ name.map Prod.fst
      if rest = [] && (tree.find directory next).toOption.bind tree.node? = none then []
      else pathsFrom tree directory (close next) rest
    else
      match place.toOption with
      | none => []
      | some here =>
        if tree.node? here ≠ some .directory then []
        else
          let chosen := (['.'] :: ['.', '.'] :: tree.names here).filter (choosesName pattern)
          chosen.flatMap fun found =>
            let next := start ++ found
            if rest = [] || (tree.find directory next).toOption.bind tree.node? = some .directory
            then pathsFrom tree directory (close next) rest
            else []

/-- A text holds a character with a meaning in patterns. -/
def isPattern (text : List MarkedChar) : Bool :=
  text.any fun (c, quoted) => !quoted && (c = '*' || c = '?' || c = '[')

/-- The paths that a pattern chooses, in order. -/
def paths (tree : FileTree) (directory : FilePath) (text : List MarkedChar) : List Chars :=
  if isPattern text then (pathsFrom tree directory [] (splitMarked text)).mergeSort textLE else []

end Glob

end Shell

end TcpJournal
