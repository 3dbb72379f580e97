import TcpJournal.Shell.Conversion

/-!
# Escape sequences

What stands behind a backslash in texts that are printed and in quotes that know
escape sequences: a letter for a character that cannot be shown, or the digits
of a byte or of a code point.  Readers differ in the sequences that they know.
-/

namespace TcpJournal

namespace Shell

/-- Who reads escape sequences: a command inside the plain shell, one of the two
programs outside it, which know more of them, or the extended shell, in quotes,
in an echo, in a print format or in an argument of one. -/
inductive PrintStyle where
  | inner
  | echo
  | format
  | quotes
  | extendedEcho
  | extendedFormat
  | extendedArgument
  deriving DecidableEq, Repr

/-- What is made of an escape sequence: characters and the text behind it, the
end of all that is printed, or an error. -/
inductive Escape where
  | text (chars : List Char) (rest : List Char)
  | stop
  | faulty (reason : String)
  deriving DecidableEq, Repr

/-- The value of hexadecimal digits. -/
def hexadecimalValue (digits : Chars) : Nat :=
  digits.foldl (fun n c => 16 * n + (Text.hexValue? c).getD 0) 0

/-- The escape sequence for a code point of so many digits.  Those of the basic
characters are refused but for three; where no character beyond them can be
written, the sequence itself is. -/
def codePointEscape (size : Nat) (text : Chars) : Escape :=
  let digits := (text.take size).takeWhile fun c => (Text.hexValue? c).isSome
  let n := hexadecimalValue digits
  if digits.length < size then .faulty "missing hexadecimal number in escape"
  else if (n ≤ 0x9f && n ≠ 0x24 && n ≠ 0x40 && n ≠ 0x60) || (0xd800 ≤ n && n ≤ 0xdfff) then
    .faulty "invalid universal character name"
  else
    let rest := text.drop size
    if n < 0x80 then .text [Char.ofNat n] rest
    else
      let (letter, size) := if n < 0x10000 then ('u', 4) else ('U', 8)
      .text ('\\' :: letter :: Decimal.padLeft '0' size ((Nat.toDigits 16 n).map upperCase)) rest

/-- The escape sequence for a code point of up to so many digits in the extended
shell.  One that cannot be written is shown by its digits. -/
def shortCodePoint (size : Nat) (letter : Char) (text : Chars) : Escape :=
  let digits := (text.take size).takeWhile fun c => (Text.hexValue? c).isSome
  let n := hexadecimalValue digits
  let rest := text.drop digits.length
  if digits = [] then .text ['\\', letter] text
  else if n < 0x80 then .text [Char.ofNat n] rest
  else
    let (letter, size) := if n < 0x10000 then ('u', 4) else ('U', 8)
    .text ('\\' :: letter :: Decimal.padLeft '0' size ((Nat.toDigits 16 n).map upperCase)) rest

/-- The escape sequence behind a backslash in the extended shell. -/
def extendedEscape (style : PrintStyle) (text : Chars) : Escape :=
  let octal (limit : Nat) (text : Chars) : Escape :=
    let (byte, rest) := octalByte limit text
    .text [byte] rest
  match text with
  | [] => .text ['\\'] []
  | c :: rest =>
    if c = '0' && (style = .extendedEcho || style = .extendedArgument) then octal 3 rest
    else if isOctal c && style ≠ .extendedEcho then octal 3 text
    else if c = 'c' && (style = .extendedEcho || style = .extendedArgument) then .stop
    else if c = 'c' && style = .quotes then
      match rest with
      | d :: rest =>
        .text [if d = '?' then '\x7f' else Char.ofNat ((upperCase d).toNat % 32)] rest
      | [] => .text ['\\', 'c'] []
    else if c = 'e' || c = 'E' then .text ['\x1b'] rest
    else if c = 'x' then
      match hexByte? rest with
      | some (byte, rest) => .text [byte] rest
      | none => .text ['\\', 'x'] rest
    else if c = 'u' then shortCodePoint 4 c rest
    else if c = 'U' then shortCodePoint 8 c rest
    else if (c = '"' || c = '\'' || c = '?') && style ≠ .extendedEcho then .text [c] rest
    else
      match simpleEscape? c with
      | some d => .text [d] rest
      | none => .text ['\\'] text

/-- The escape sequence behind a backslash in a print format. -/
def formatEscape (style : PrintStyle) (text : Chars) : Escape :=
  if style = .extendedFormat || style = .extendedEcho then extendedEscape style text
  else match text with
  | [] => .text ['\\'] []
  | c :: rest =>
    if isOctal c then
      let (byte, rest) := octalByte 3 text
      .text [byte] rest
    else if c = 'e' then .text ['\x1b'] rest
    else if style = .format && c = '"' then .text ['"'] rest
    else if style ≠ .inner && c = 'c' then .stop
    else if style ≠ .inner && c = 'x' then
      match hexByte? rest with
      | some (byte, rest) => .text [byte] rest
      | none =>
        if style = .echo then .text ['\\', 'x'] rest
        else .faulty "missing hexadecimal number in escape"
    else if style = .format && c = 'u' then codePointEscape 4 rest
    else if style = .format && c = 'U' then codePointEscape 8 rest
    else
      match simpleEscape? c with
      | some d => .text [d] rest
      | none => .text ['\\'] text

/-- The escape sequence behind a backslash in an argument. -/
def argumentEscape (style : PrintStyle) (text : Chars) : Escape :=
  if style = .extendedFormat then extendedEscape .extendedArgument text
  else if style = .extendedEcho then extendedEscape style text
  else match text with
  | 'c' :: _ => .stop
  | '0' :: d :: rest =>
    if isOctal d then
      let (byte, rest) := octalByte 3 (d :: rest)
      .text [byte] rest
    else .text ['\x00'] (d :: rest)
  | text => formatEscape style text

end Shell

end TcpJournal
