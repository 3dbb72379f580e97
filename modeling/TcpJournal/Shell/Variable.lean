import TcpJournal.Decimal
import TcpJournal.Shell.Syntax

/-!
# Variables

A variable holds a text, or in the extended language a list of texts under
numbers or under other texts as keys.  Numbered elements stand in the order of
their numbers, keyed ones in the order of the table that finds them.
-/

namespace TcpJournal

namespace Shell

/-- The elements of a list by their keys, which are numbers or any texts. -/
structure Elements where
  isKeyed : Bool
  entries : List (Chars × Chars)
  deriving DecidableEq, Repr

namespace Elements

/-- No elements. -/
def none (isKeyed : Bool) : Elements := ⟨isKeyed, []⟩

/-- The number of rows in the table of keyed elements. -/
def tableSize : Nat := 1024

/-- The row of a key in the table. -/
def row (key : Chars) : Nat :=
  key.foldl (fun n c => (n * 16777619 % 2 ^ 32) ^^^ c.toNat) 2166136261 % tableSize

/-- An element stands in front of one with another key. -/
def precedes (isKeyed : Bool) (a b : Chars) : Bool :=
  if isKeyed then row a ≤ row b else Decimal.value a < Decimal.value b

/-- The element of a key. -/
def find? (e : Elements) (key : Chars) : Option Chars :=
  e.entries.lookup key

/-- The elements with one more, or another one under a key. -/
def put (e : Elements) (key value : Chars) : Elements :=
  if (e.find? key).isSome then
    { e with entries := e.entries.map fun entry => if entry.1 = key then (key, value) else entry }
  else
    let before := e.entries.takeWhile fun entry => !precedes e.isKeyed key entry.1
    { e with entries := before ++ (key, value) :: e.entries.drop before.length }

/-- The elements without one. -/
def erase (e : Elements) (key : Chars) : Elements :=
  { e with entries := e.entries.filter fun entry => entry.1 ≠ key }

/-- The number behind the last element. -/
def nextIndex (e : Elements) : Nat :=
  e.entries.foldl (fun n entry => max n (Decimal.value entry.1 + 1)) 0

/-- Texts under the numbers from zero. -/
def ofTexts (texts : List Chars) : Elements :=
  ⟨false, texts.zipIdx.map fun (text, n) => (Decimal.digits n, text)⟩

end Elements

/-- A variable; one that is only marked has no value. -/
structure Variable where
  value : Option Chars
  isExported : Bool
  isReadOnly : Bool
  elements : Option Elements
  attributes : List Char
  deriving DecidableEq, Repr

namespace Variable

/-- A variable that holds a text. -/
def plain (value : Option Chars) (isExported isReadOnly : Bool) : Variable :=
  ⟨value, isExported, isReadOnly, none, []⟩

/-- A variable that is nothing yet. -/
def fresh : Variable := plain none false false

/-- The text that a variable stands for: that of a list is its first one. -/
def text? (v : Variable) : Option Chars :=
  match v.elements with
  | some e => e.find? ['0']
  | none => v.value

/-- The variable with a text; in a list it is the first one. -/
def withText (v : Variable) (text : Chars) : Variable :=
  match v.elements with
  | some e => { v with elements := some (e.put ['0'] text) }
  | none => { v with value := some text }

/-- The elements of a variable; a text is the first element of a list. -/
def toElements (v : Variable) : Elements :=
  v.elements.getD (Elements.ofTexts v.value.toList)

/-- The letters of what is declared of a variable. -/
def letters (v : Variable) : Chars :=
  (match v.elements with
    | some e => if e.isKeyed then ['A'] else ['a']
    | none => if v.attributes.contains 'A' then ['A'] else if v.attributes.contains 'a' then ['a']
      else []) ++
    (if v.attributes.contains 'i' then ['i'] else []) ++
    (if v.isReadOnly then ['r'] else []) ++ (if v.isExported then ['x'] else []) ++
    (if v.attributes.contains 'l' then ['l'] else []) ++
    (if v.attributes.contains 'u' then ['u'] else [])

end Variable

end Shell

end TcpJournal
