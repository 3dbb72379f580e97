import TcpJournal.Bytes
import TcpJournal.Decimal
import TcpJournal.Text

/-!
# IP addresses and endpoints

Addresses are 32-bit or 128-bit numbers with their usual texts: dotted decimal
without leading zeros, and groups of hexadecimal digits in which `::` stands
for at least one zero group.  Written, an IPv6 address compresses its first
longest run of two or more zero groups, and an IPv4-mapped one shows the dotted
form.  An endpoint adds a port and, for IPv6, a scope.  The flow information that
an IPv6 endpoint may have as well is left out: no text shows it, an endpoint that
is read from a text has none, and here it is 0 throughout.
-/

namespace TcpJournal

/-- An IP address. -/
inductive Address where
  | v4 (value : BitVec 32)
  | v6 (value : BitVec 128)
  deriving DecidableEq, Repr

namespace Address

/-- The IPv4 address that stands for no address. -/
def unspecified : Address := v4 0

/-- The number that bytes spell, most significant first. -/
def bigEndian (bytes : Bytes) : Nat :=
  bytes.foldl (fun n b => 256 * n + b.toNat) 0

/-- The four bytes of an IPv4 address. -/
def octets (value : BitVec 32) : List Nat :=
  [24, 16, 8, 0].map fun shift => value.toNat / 2 ^ shift % 2 ^ 8

/-- The eight 16-bit groups of an IPv6 address. -/
def groups (value : BitVec 128) : List Nat :=
  [112, 96, 80, 64, 48, 32, 16, 0].map fun shift => value.toNat / 2 ^ shift % 2 ^ 16

/-- Texts with a separator between each two. -/
def joined (separator : List Char) (texts : List (List Char)) : List Char :=
  separator.intercalate texts

/-- Dotted decimal. -/
def dotted (value : BitVec 32) : List Char :=
  joined ['.'] ((octets value).map Decimal.digits)

/-- Hexadecimal groups with colons between them. -/
def colonGroups (groups : List Nat) : List Char :=
  joined [':'] (groups.map (Nat.toDigits 16))

/-- The start and length of the first longest run of zero groups, scanning from
position `i` with the current run and the best one so far. -/
def longestZeroRun : List Nat → Nat → Nat × Nat → Nat × Nat → Nat × Nat
  | [], _, _, best => best
  | g :: rest, i, (start, length), best =>
    if g = 0 then
      let current := (if length = 0 then i else start, length + 1)
      longestZeroRun rest (i + 1) current (if best.2 < current.2 then current else best)
    else longestZeroRun rest (i + 1) (0, 0) best

/-- The text of an address. -/
def text : Address → List Char
  | v4 value => dotted value
  | v6 value =>
    let groups := groups value
    if groups.take 6 = [0, 0, 0, 0, 0, 0xFFFF] then
      "::ffff:".toList ++ dotted (value.setWidth 32)
    else
      let (start, length) := longestZeroRun groups 0 (0, 0) (0, 0)
      if length ≤ 1 then colonGroups groups
      else colonGroups (groups.take start) ++ "::".toList ++
        colonGroups (groups.drop (start + length))

/-- A number in digits of a base, at most `bound`.  A limit on the count of
digits and a ban on leading zeros are optional. -/
def readNumber? (base : Nat) (maxDigits : Option Nat) (leadingZero : Bool) (bound : Nat)
    (text : List Char) : Option (Nat × List Char) :=
  let digit? (c : Char) : Option Nat := (Text.hexValue? c).filter (· < base)
  let run := text.takeWhile fun c => (digit? c).isSome
  let value := run.foldl (fun n c => base * n + (digit? c).getD 0) 0
  if run = [] then none
  else if (maxDigits.any fun limit => limit < run.length) then none
  else if !leadingZero && run.head? = some '0' && 1 < run.length then none
  else if bound < value then none
  else some (value, text.drop run.length)

/-- The four bytes of a dotted decimal. -/
def readDotted? (text : List Char) : Option (List Nat × List Char) := do
  let octet? := readNumber? 10 (some 3) false 255
  let (a, text) ← octet? text
  let (b, text) ← octet? (← Text.expect? '.' text)
  let (c, text) ← octet? (← Text.expect? '.' text)
  let (d, text) ← octet? (← Text.expect? '.' text)
  return ([a, b, c, d], text)

/-- The text after the colon in front of every group but the first. -/
def afterColon? (first : Bool) (text : List Char) : Option (List Char) :=
  if first then some text else Text.expect? ':' text

/-- As many groups as the text has, up to a limit, and whether the last two
were written as a dotted decimal. -/
def readGroups : Nat → Bool → List Char → List Nat × Bool × List Char
  | 0, _, text => ([], false, text)
  | limit + 1, first, text =>
    let embedded? := if limit = 0 then none else (afterColon? first text).bind readDotted?
    match embedded? with
    | some ([a, b, c, d], rest) => ([256 * a + b, 256 * c + d], true, rest)
    | _ =>
      match (afterColon? first text).bind (readNumber? 16 (some 4) true 0xFFFF) with
      | some (group, rest) =>
        let (groups, dotted, rest) := readGroups limit false rest
        (group :: groups, dotted, rest)
      | none => ([], false, text)

/-- The groups of an IPv6 address. -/
def readGroups8? (text : List Char) : Option (List Nat × List Char) :=
  let (head, dotted, rest) := readGroups 8 true text
  if head.length = 8 then some (head, rest)
  else if dotted then none
  else do
    let rest ← Text.expect? ':' (← Text.expect? ':' rest)
    let (tail, _, rest) := readGroups (7 - head.length) true rest
    return (head ++ List.replicate (8 - head.length - tail.length) 0 ++ tail, rest)

end Address

/-- One end of a TCP connection.  The flow information of an IPv6 endpoint is 0. -/
inductive Endpoint where
  | v4 (address : BitVec 32) (port : UInt16)
  | v6 (address : BitVec 128) (port : UInt16) (scope : UInt32)
  deriving DecidableEq, Repr

namespace Endpoint

/-- The IP address of an endpoint. -/
def address : Endpoint → Address
  | v4 value _ => .v4 value
  | v6 value _ _ => .v6 value

/-- The port of an endpoint. -/
def port : Endpoint → UInt16
  | v4 _ port => port
  | v6 _ port _ => port

/-- The text of an endpoint; an IPv6 address stands in brackets, with its scope
unless that is 0. -/
def text : Endpoint → List Char
  | v4 value port => (Address.v4 value).text ++ ':' :: Decimal.digits port.toNat
  | v6 value port scope =>
    let zone := if scope = 0 then [] else '%' :: Decimal.digits scope.toNat
    '[' :: (Address.v6 value).text ++ zone ++ "]:".toList ++ Decimal.digits port.toNat

/-- The port after its colon. -/
def readPort? (text : List Char) : Option (UInt16 × List Char) := do
  let (port, rest) ← Address.readNumber? 10 none true 0xFFFF (← Text.expect? ':' text)
  return (UInt16.ofNat port, rest)

/-- An IPv4 endpoint at the start of a text. -/
def readV4? (text : List Char) : Option (Endpoint × List Char) := do
  let (octets, rest) ← Address.readDotted? text
  let (port, rest) ← readPort? rest
  return (v4 (BitVec.ofNat 32 (octets.foldl (fun n b => 256 * n + b) 0)) port, rest)

/-- The scope after its percent sign. -/
def readScope? (text : List Char) : Option (Nat × List Char) := do
  Address.readNumber? 10 none true 0xFFFFFFFF (← Text.expect? '%' text)

/-- An IPv6 endpoint at the start of a text. -/
def readV6? (text : List Char) : Option (Endpoint × List Char) := do
  let (groups, rest) ← Address.readGroups8? (← Text.expect? '[' text)
  let (scope, rest) := (readScope? rest).getD (0, rest)
  let (port, rest) ← readPort? (← Text.expect? ']' rest)
  let value := groups.foldl (fun n g => 2 ^ 16 * n + g) 0
  return (v6 (BitVec.ofNat 128 value) port (UInt32.ofNat scope), rest)

/-- The endpoint that a text is. -/
def parse? (text : List Char) : Option Endpoint :=
  match (readV4? text).orElse fun _ => readV6? text with
  | some (endpoint, []) => some endpoint
  | _ => none

/-- The position of an endpoint in the order of endpoints: IPv4 first, then by
address, port and scope. -/
def rank : Endpoint → List Nat
  | v4 value port => [0, value.toNat, port.toNat, 0]
  | v6 value port scope => [1, value.toNat, port.toNat, scope.toNat]

end Endpoint

end TcpJournal
