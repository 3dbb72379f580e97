import TcpJournal.Binary64
import TcpJournal.Json.Value

/-!
# The content of JSON documents

A string has a text if its surrogates come in pairs and its bytes are UTF-8.  A
number is a byte if it is written as a whole number up to 255, without sign,
fraction or exponent.  A value is sound if every string in it has a text and
every number lies in the range of binary64.
-/

namespace TcpJournal

namespace JsonValue

/-- The byte for a letter after a backslash. -/
def escapedByte (b : UInt8) : UInt8 :=
  match b with
  | 0x62 => 0x08
  | 0x66 => 0x0C
  | 0x6E => 0x0A
  | 0x72 => 0x0D
  | 0x74 => 0x09
  | b => b

/-- The character of a pair of surrogates. -/
def pairedChar (high low : Nat) : Char :=
  Char.ofNat ((high - 0xD800) * 0x400 + (low - 0xDC00) + 0x10000)

/-- A number is a high surrogate. -/
def isHighSurrogate (n : Nat) : Bool := 0xD800 ≤ n && n ≤ 0xDBFF

/-- A number is a low surrogate. -/
def isLowSurrogate (n : Nat) : Bool := 0xDC00 ≤ n && n ≤ 0xDFFF

/-- The bytes that a string stands for, escapes resolved, unless a surrogate
stands alone. -/
def unescaped? : Bytes → Option Bytes
  | [] => some []
  | 0x5C :: 0x75 :: a :: b :: c :: d :: 0x5C :: 0x75 :: a' :: b' :: c' :: d' :: rest =>
    match hexValue4? a b c d, hexValue4? a' b' c' d' with
    | some n, some n' =>
      if isHighSurrogate n then
        if isLowSurrogate n' then
          (unescaped? rest).map (String.utf8EncodeChar (pairedChar n n') ++ ·)
        else none
      else if isLowSurrogate n then none
      else
        (unescaped? (0x5C :: 0x75 :: a' :: b' :: c' :: d' :: rest)).map
          (String.utf8EncodeChar (Char.ofNat n) ++ ·)
    | _, _ => none
  | 0x5C :: 0x75 :: a :: b :: c :: d :: rest =>
    match hexValue4? a b c d with
    | some n =>
      if isHighSurrogate n || isLowSurrogate n then none
      else (unescaped? rest).map (String.utf8EncodeChar (Char.ofNat n) ++ ·)
    | none => none
  | 0x5C :: e :: rest => (unescaped? rest).map (escapedByte e :: ·)
  | b :: rest => (unescaped? rest).map (b :: ·)

/-- The text of a string. -/
def rawText? (raw : Bytes) : Option (List Char) :=
  (unescaped? raw).bind Bytes.toText?

/-- The text of a value that is a string. -/
def text? : JsonValue → Option (List Char)
  | string raw => rawText? raw
  | _ => none

/-- The number that digits spell. -/
def digitsValue (digits : Bytes) : Nat :=
  digits.foldl (fun n b => 10 * n + (b.toNat - 0x30)) 0

/-- The byte that a value is. -/
def byte? : JsonValue → Option UInt8
  | number ⟨false, whole, none, none⟩ =>
    let n := digitsValue whole
    if n ≤ 255 then some (UInt8.ofNat n) else none
  | _ => none

/-- The bytes that a value lists. -/
def bytes? : JsonValue → Option Bytes
  | array items => items.mapM byte?
  | _ => none

/-- The greatest significand that a decimal number is read with. -/
def maxSignificand : Nat := 2 ^ 64 - 1

/-- Digits of the whole part, read into a significand until it is full; each
digit after that counts as a power of ten. -/
def wholeDigits : Bytes → Nat → Nat × Nat
  | [], significand => (significand, 0)
  | d :: rest, significand =>
    let next := 10 * significand + (d.toNat - 0x30)
    if next ≤ maxSignificand then wholeDigits rest next
    else (significand, rest.length + 1)

/-- Digits of the fraction, read into a significand until it is full, and how
many were read. -/
def fractionDigits : Bytes → Nat → Nat × Nat
  | [], significand => (significand, 0)
  | d :: rest, significand =>
    let next := 10 * significand + (d.toNat - 0x30)
    if next ≤ maxSignificand then
      let (significand, count) := fractionDigits rest next
      (significand, count + 1)
    else (significand, 0)

/-- A significand times a power of ten, both as binary64, is finite. -/
def isFiniteProduct (significand : Nat) (exponent : Int) : Bool :=
  if exponent < 0 then true
  else if exponent ≤ 308 then
    (Binary64.mul (.nearest false significand 1) (.nearest false (10 ^ exponent.toNat) 1)).isFinite
  else significand = 0

/-- A number lies in the range of binary64. -/
def isInRange (n : JsonNumber) : Bool :=
  match n.fraction, n.exponent with
  | fraction, exponent =>
    let (significand, dropped) := wholeDigits n.whole 0
    let (significand, places) := fractionDigits (fraction.getD []) significand
    let (negative, digits) := exponent.getD (false, [])
    let power := digitsValue digits
    if 2 ^ 31 ≤ power then significand = 0 || negative
    else
      let power : Int := if negative then -power else power
      isFiniteProduct significand (dropped - places + power)

mutual

/-- Every string has a text and every number is in range. -/
def isSound : JsonValue → Bool
  | null | boolean _ => true
  | number n => isInRange n
  | string raw => (rawText? raw).isSome
  | array items => areSound items
  | object members => areSoundMembers members

/-- All values of a list are sound. -/
def areSound : List JsonValue → Bool
  | [] => true
  | value :: rest => isSound value && areSound rest

/-- All keys of members have a text, and all their values are sound. -/
def areSoundMembers : List (Bytes × JsonValue) → Bool
  | [] => true
  | (key, value) :: rest => (rawText? key).isSome && isSound value && areSoundMembers rest

end

mutual

/-- How many arrays and objects stand inside each other. -/
def depth : JsonValue → Nat
  | null | boolean _ | number _ | string _ => 0
  | array items => 1 + depthOfItems items
  | object members => 1 + depthOfMembers members

/-- The greatest depth of values. -/
def depthOfItems : List JsonValue → Nat
  | [] => 0
  | value :: rest => max (depth value) (depthOfItems rest)

/-- The greatest depth of members. -/
def depthOfMembers : List (Bytes × JsonValue) → Nat
  | [] => 0
  | (_, value) :: rest => max (depth value) (depthOfMembers rest)

end

/-- The members of an object with the texts of their keys, unless a key has no
text. -/
def keyed? (members : List (Bytes × JsonValue)) : Option (List (List Char × JsonValue)) :=
  members.mapM fun (key, value) => (rawText? key).map fun text => (text, value)

/-- The value of a key that occurs at most once: `none` if it is repeated,
`some none` if it does not occur. -/
def unique? (members : List (List Char × JsonValue)) (key : String) : Option (Option JsonValue) :=
  match members.filter fun member => member.1 = key.toList with
  | [] => some none
  | [member] => some (some member.2)
  | _ => none

end JsonValue

end TcpJournal
