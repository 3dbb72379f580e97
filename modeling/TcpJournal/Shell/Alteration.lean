import TcpJournal.Shell.Escape
import TcpJournal.Shell.Glob
import TcpJournal.Shell.Quotation

/-!
# Alterations of values

What the forms of the extended language make of a text: matches of a pattern are
exchanged for another text, letters change their case, a slice is taken, and the
text is shown as a word that could be read again.
-/

namespace TcpJournal

namespace Shell

namespace Alteration

/-- The size of the longest start of a text that a pattern matches. -/
def longestStart? (pattern : List GlobItem) (text : Chars) : Option Nat :=
  (List.range (text.length + 1)).reverse.find? fun n => Glob.matchesAll pattern (text.take n)

/-- A replacement in which the places without a character stand for the match. -/
def filled (replacement : List (Option Char)) (found : Chars) : Chars :=
  replacement.flatMap fun c? => match c? with
    | some c => [c]
    | none => found

/-- A text with its first match exchanged, or all of them; an empty match changes
nothing. -/
def exchangeFrom (pattern : List GlobItem) (replacement : List (Option Char)) (all : Bool) :
    Nat → Chars → Chars
  | 0, text => text
  | _, [] => []
  | fuel + 1, c :: rest =>
    match (longestStart? pattern (c :: rest)).filter (0 < ·) with
    | some n =>
      let found := (c :: rest).take n
      let after := (c :: rest).drop n
      filled replacement found ++
        (if all then exchangeFrom pattern replacement all fuel after else after)
    | none => c :: exchangeFrom pattern replacement all fuel rest

/-- A text with matches of a pattern exchanged for a replacement. -/
def exchange (place : MatchPlace) (pattern : List GlobItem) (replacement : List (Option Char))
    (text : Chars) : Chars :=
  match place with
  | .first => exchangeFrom pattern replacement false (text.length + 1) text
  | .everywhere => exchangeFrom pattern replacement true (text.length + 1) text
  | .front =>
    match longestStart? pattern text with
    | some n => filled replacement (text.take n) ++ text.drop n
    | none => text
  | .back =>
    let start? := (List.range (text.length + 1)).find? fun n =>
      Glob.matchesAll pattern (text.drop n)
    match start? with
    | some n => text.take n ++ filled replacement (text.drop n)
    | none => text

/-- A letter in another case. -/
def changed (change : CaseChange) (c : Char) : Char :=
  match change with
  | .upper => upperCase c
  | .lower => lowerCase c
  | .toggled => if upperCase c = c then lowerCase c else upperCase c

/-- A text with the case of its first letter changed, or of all letters; only those
that a pattern matches, where there is one. -/
def recase (change : CaseChange) (everywhere : Bool) (pattern : List GlobItem) (text : Chars) :
    Chars :=
  let alter (c : Char) : Char :=
    if pattern = [] || Glob.matchesAll pattern [c] then changed change c else c
  if everywhere then text.map alter
  else
    match text with
    | c :: rest => alter c :: rest
    | [] => []

/-- The slice of a list from an offset, with a length if there is one; an offset
below zero counts from the end, and so does the length for characters.  There is
none if its ends are in the wrong order. -/
def slice? {α : Type} (endsCount : Bool) (offset : Int) (length? : Option Int) (all : List α) :
    Option (List α) :=
  let size : Int := all.length
  let start := if offset < 0 then offset + size else offset
  if start < 0 then some []
  else
    match length? with
    | none => some (all.drop start.toNat)
    | some n =>
      if 0 ≤ n then some ((all.drop start.toNat).take n.toNat)
      else if endsCount then
        if size + n < start then none
        else some ((all.drop start.toNat).take (size + n - start).toNat)
      else none

/-- A text with escape sequences replaced. -/
def unescaped : Nat → Chars → Chars
  | 0, _ => []
  | _, [] => []
  | fuel + 1, '\\' :: rest =>
    match extendedEscape .quotes rest with
    | .text chars rest => chars ++ unescaped fuel rest
    | _ => []
  | fuel + 1, c :: rest => c :: unescaped fuel rest

end Alteration

end Shell

end TcpJournal
