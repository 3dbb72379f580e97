/-!
# Byte strings and their text

Payloads, packets and journal records are finite byte strings.  Text enters
and leaves them as UTF-8: `Bytes.ofText` encodes, and `Bytes.toText?` decodes
exactly the well-formed encodings, so overlong forms and surrogates are
refused.
-/

namespace TcpJournal

/-- A finite byte string. -/
abbrev Bytes := List UInt8

namespace Bytes

/-- The byte that ends a line. -/
def newline : UInt8 := 0x0A

/-- The carriage return, dropped once in front of a newline. -/
def carriageReturn : UInt8 := 0x0D

/-- The UTF-8 encoding of a text. -/
def ofText (text : List Char) : Bytes :=
  text.flatMap String.utf8EncodeChar

/-- The UTF-8 encoding of a string. -/
def ofString (text : String) : Bytes :=
  ofText text.toList

/-- The text in which each byte is a character of the same code. -/
def byteChars (bytes : Bytes) : List Char :=
  bytes.map fun b => Char.ofNat b.toNat

/-- The bytes of a text whose characters are bytes. -/
def ofByteChars (text : List Char) : Bytes :=
  text.map fun c => UInt8.ofNat c.toNat

/-- A byte of the form `10xxxxxx`, which continues an encoded character. -/
def isTail (b : UInt8) : Bool :=
  0x80 ≤ b && b ≤ 0xBF

/-- The six payload bits of a continuation byte. -/
def tailBits (b : UInt8) : Nat :=
  b.toNat % 0x40

/-- The character of a two-byte form, whose code lies in U+0080 to U+07FF. -/
def twoByteChar? (a b : UInt8) : Option Char :=
  if 0xC2 ≤ a && a ≤ 0xDF && isTail b then
    some (Char.ofNat (a.toNat % 0x20 * 0x40 + tailBits b))
  else none

/-- The character of a three-byte form, whose code lies in U+0800 to U+FFFF
outside the surrogates. -/
def threeByteChar? (a b c : UInt8) : Option Char :=
  let code := a.toNat % 0x10 * 0x1000 + tailBits b * 0x40 + tailBits c
  if 0xE0 ≤ a && a ≤ 0xEF && isTail b && isTail c && 0x800 ≤ code
      && !(0xD800 ≤ code && code ≤ 0xDFFF) then
    some (Char.ofNat code)
  else none

/-- The character of a four-byte form, whose code lies in U+10000 to U+10FFFF. -/
def fourByteChar? (a b c d : UInt8) : Option Char :=
  let code := a.toNat % 0x08 * 0x40000 + tailBits b * 0x1000 + tailBits c * 0x40 + tailBits d
  if 0xF0 ≤ a && a ≤ 0xF4 && isTail b && isTail c && isTail d
      && 0x10000 ≤ code && code ≤ 0x10FFFF then
    some (Char.ofNat code)
  else none

/-- The text whose UTF-8 encoding this is, if there is one. -/
def toText? : Bytes → Option (List Char)
  | [] => some []
  | a :: rest =>
    if a ≤ 0x7F then (toText? rest).map (Char.ofNat a.toNat :: ·)
    else match rest with
      | [] => none
      | b :: rest =>
        match twoByteChar? a b with
        | some ch => (toText? rest).map (ch :: ·)
        | none => match rest with
          | [] => none
          | c :: rest =>
            match threeByteChar? a b c with
            | some ch => (toText? rest).map (ch :: ·)
            | none => match rest with
              | [] => none
              | d :: rest =>
                match fourByteChar? a b c d with
                | some ch => (toText? rest).map (ch :: ·)
                | none => none

end Bytes

end TcpJournal
