import TcpJournal.Text.Ranges

/-!
# Quoted text

A quotation shows any text on one line: quotes, backslashes, line ends, tabs
and the null character have short escapes, and every other character that
cannot be seen on its own is written by its code point.
-/

namespace TcpJournal

namespace Text

/-- A character can be seen on its own. -/
def isVisible (c : Char) : Bool :=
  (0x20 ≤ c.toNat && c.toNat ≤ 0x7E) ||
    !(inRanges invisibleRanges c || inRanges extendingRanges c || inRanges fillerRanges c ||
      inRanges unassignedRanges c)

/-- A character as it stands in a quotation. -/
def quotedChar (c : Char) : List Char :=
  match c with
  | '"' => ['\\', '"']
  | '\\' => ['\\', '\\']
  | '\n' => ['\\', 'n']
  | '\r' => ['\\', 'r']
  | '\t' => ['\\', 't']
  | '\x00' => ['\\', '0']
  | c =>
    if isVisible c then [c]
    else "\\u\x7b".toList ++ Nat.toDigits 16 c.toNat ++ "\x7d".toList

/-- A text between quotes. -/
def quoted (text : String) : String :=
  String.ofList ('"' :: text.toList.flatMap quotedChar ++ ['"'])

end Text

end TcpJournal
