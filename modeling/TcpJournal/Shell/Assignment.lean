import TcpJournal.Shell.Syntax

/-!
# Assignments

A word that starts with a name and an equals sign gives a variable a value.  In
the extended language a subscript may follow the name, and a plus sign in front
of the equals sign appends the value.  Both signs and the name stand without
quotes, so a word is read here as atoms: characters without quotes, and parts.
-/

namespace TcpJournal

namespace Shell

/-- A character without quotes, or a part of another kind. -/
inductive Atom where
  | char (c : Char)
  | part (p : Part)

namespace Atom

/-- The atoms of a word. -/
def ofWord (word : Word) : List Atom :=
  word.flatMap fun part =>
    match part with
    | .text content false => content.map Atom.char
    | part => [.part part]

/-- The word of atoms. -/
def toWord (atoms : List Atom) : Word :=
  atoms.foldr
    (fun atom word =>
      match atom, word with
      | .char c, .text content false :: rest => .text (c :: content) false :: rest
      | .char c, word => .text [c] false :: word
      | .part p, word => p :: word)
    []

/-- The character that an atom is. -/
def char? : Atom → Option Char
  | char c => some c
  | part _ => none

end Atom

/-- A word that gives a variable, or an element of it, a value. -/
structure Assignment where
  name : Chars
  subscript : Option Word
  appends : Bool
  value : Word

namespace Assignment

/-- The characters without quotes at the front of atoms. -/
def leading (atoms : List Atom) : Chars :=
  (atoms.map Atom.char?).takeWhile Option.isSome |>.filterMap id

/-- The atoms in front of the bracket that closes a subscript, and those behind
it. -/
def closing? : Nat → List Atom → Option (List Atom × List Atom)
  | _, [] => none
  | depth, .char ']' :: rest =>
    match depth with
    | 0 => some ([], rest)
    | depth + 1 => (closing? depth rest).map fun (inner, after) => (.char ']' :: inner, after)
  | depth, .char '[' :: rest =>
    (closing? (depth + 1) rest).map fun (inner, after) => (.char '[' :: inner, after)
  | depth, atom :: rest => (closing? depth rest).map fun (inner, after) => (atom :: inner, after)

/-- The assignment that a word is in a language. -/
def ofWord? (dialect : Dialect) (word : Word) : Option Assignment :=
  let atoms := Atom.ofWord word
  let name := (leading atoms).takeWhile isNameChar
  let valued (subscript : Option Word) (atoms : List Atom) : Option Assignment :=
    match atoms with
    | .char '=' :: value => some ⟨name, subscript, false, Atom.toWord value⟩
    | .char '+' :: .char '=' :: value =>
      if dialect = .plain then none else some ⟨name, subscript, true, Atom.toWord value⟩
    | _ => none
  if !isName name then none
  else
    match atoms.drop name.length with
    | .char '[' :: inside =>
      if dialect = .plain then none
      else (closing? 0 inside).bind fun (subscript, after) =>
        valued (some (Atom.toWord subscript)) after
    | atoms => valued none atoms

/-- The subscript and the value of a word in a list that starts with a subscript in
brackets, and whether the value is appended. -/
def item? (word : Word) : Option (Word × Bool × Word) :=
  match Atom.ofWord word with
  | .char '[' :: inside =>
    (closing? 0 inside).bind fun (subscript, after) =>
      match after with
      | .char '=' :: value => some (Atom.toWord subscript, false, Atom.toWord value)
      | .char '+' :: .char '=' :: value => some (Atom.toWord subscript, true, Atom.toWord value)
      | _ => none
  | _ => none

end Assignment

end Shell

end TcpJournal
