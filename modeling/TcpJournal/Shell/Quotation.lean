import TcpJournal.Shell.Syntax
import TcpJournal.Text

/-!
# Texts in quotes

A text that a shell reads as one word: it stands as it is where nothing in it
means anything, in single quotes otherwise, and in double quotes where it holds
a single quote and nothing that double quotes leave a meaning.  A character that
cannot be shown is written by an escape sequence in quotes of its own.
-/

namespace TcpJournal

namespace Shell

namespace Quotation

/-- A character that can be shown; a byte beyond the first half cannot. -/
def isShown (c : Char) : Bool := ' ' ≤ c && c ≤ '~'

/-- The letter of an escape sequence for a character that cannot be shown. -/
def escapeLetter? (c : Char) : Option Char :=
  match c with
  | '\x07' => some 'a'
  | '\x08' => some 'b'
  | '\x0c' => some 'f'
  | '\n' => some 'n'
  | '\x0d' => some 'r'
  | '\t' => some 't'
  | '\x0b' => some 'v'
  | _ => none

/-- The escape sequence for a character that cannot be shown: its letter, or its
octal digits. -/
def escaped (c : Char) : Chars :=
  match escapeLetter? c with
  | some letter => ['\\', letter]
  | none =>
    let digit (n : Nat) : Char := Char.ofNat ('0'.toNat + n % 8)
    ['\\', digit (c.toNat / 64), digit (c.toNat / 8), digit c.toNat]

/-- A text that means nothing but itself. -/
def isPlain (text : Chars) : Bool :=
  let isHarmless (c : Char) : Bool :=
    isShown c && !" !\"$&()*;<=>[^|'?\\".toList.contains c && c ≠ '\x60'
  let opens (c : Char) : Bool := c = '#' || c = '~'
  text ≠ [] && text.all isHarmless && !text.head?.any opens &&
    text ≠ ['\x7b'] && text ≠ ['\x7d']

/-- A text that double quotes leave no meaning: blanks, digits, letters, single
quotes, and marks that mean nothing anywhere. -/
def isSafeInDouble (text : Chars) : Bool :=
  let isAlone : Bool := text.length = 1
  let isSafe (place : Nat) (c : Char) : Bool :=
    if c = '\x7b' || c = '\x7d' then isAlone
    else if c = '#' || c = '~' then place = 0
    else isShown c && !"!\"$&()*;<=>[^|?\\".toList.contains c && c ≠ '\x60'
  (text.zipIdx).all fun (c, place) => isSafe place c

/-- The text between single quotes, in which characters that cannot be shown
are in quotes of their own; `inEscape` says that such quotes are open. -/
def between (inEscape : Bool) : Chars → Chars
  | [] => []
  | c :: rest =>
    if c = '\'' then "'\\''".toList ++ between false rest
    else if isShown c then (if inEscape then "''".toList else []) ++ c :: between false rest
    else (if inEscape then [] else "'$'".toList) ++ escaped c ++ between true rest

/-- A text as one word. -/
def word (text : Chars) : Chars :=
  if isPlain text then text
  else if text.contains '\'' && isSafeInDouble text then '"' :: text ++ ['"']
  else '\'' :: between false text ++ ['\'']

/-- A text between quotes that know escape sequences. -/
def inEscapes (text : Chars) : Chars :=
  let shown (c : Char) : Chars :=
    if c = '\'' || c = '\\' then ['\\', c]
    else if c = '\x1b' then ['\\', 'E']
    else if isShown c then [c]
    else escaped c
  '$' :: '\'' :: text.flatMap shown ++ ['\'']

/-- A text with backslashes in front of the characters that mean something, as the
extended shell prints a word. -/
def backslashed (text : Chars) : Chars :=
  let isMeaningful (place : Nat) (c : Char) : Bool :=
    " \t!\"$&'()*,;<>?[\\]^|".toList.contains c || c = '\x60' || c = '\x7b' || c = '\x7d' ||
      (place = 0 && (c = '#' || c = '~'))
  if text = [] then "''".toList
  else if text.all isShown then
    text.zipIdx.flatMap fun (c, place) => if isMeaningful place c then ['\\', c] else [c]
  else inEscapes text

/-- A text between single quotes, or between quotes that know escape sequences if
it holds characters that cannot be shown. -/
def enclosed (text : Chars) : Chars :=
  if text.all isShown then '\'' :: between false text ++ ['\''] else inEscapes text

/-- A text in quotes only where it needs them, as variables are listed. -/
def listed (text : Chars) : Chars :=
  let isHarmless (c : Char) : Bool :=
    isShown c && !" !\"$&'()*;<>?[\\]^|".toList.contains c && c ≠ '\x60' && c ≠ '\x7b' &&
      c ≠ '\x7d'
  if text.all isHarmless && !text.head?.any (fun c => c = '#' || c = '~') then text
  else enclosed text

/-- A text between double quotes, as the values of variables are declared. -/
def declared (text : Chars) : Chars :=
  let shown (c : Char) : Chars :=
    if c = '"' || c = '$' || c = '\\' || c = '\x60' then ['\\', c] else [c]
  if text.all isShown then '"' :: text.flatMap shown ++ ['"'] else inEscapes text

end Quotation

end Shell

end TcpJournal
