import TcpJournal.Bytes

/-!
# JSON documents

A JSON document is read from bytes into a tree whose strings and numbers stay
as they are written: only their syntax has been checked.  A string may hold
escapes that stand for no character, and bytes that are no UTF-8, until
somebody asks for its text; so a part of a document that nobody looks at need
not make sense, at any depth.
-/

namespace TcpJournal

/-- The parts of a number as they are written, digits as byte values. -/
structure JsonNumber where
  negative : Bool
  whole : Bytes
  fraction : Option Bytes
  exponent : Option (Bool × Bytes)
  deriving DecidableEq, Repr

/-- A JSON document. -/
inductive JsonValue where
  | null
  | boolean (value : Bool)
  | number (value : JsonNumber)
  | string (raw : Bytes)
  | array (items : List JsonValue)
  | object (members : List (Bytes × JsonValue))
  deriving Repr

namespace JsonValue

/-- White space between the tokens of a document. -/
def isBlank (b : UInt8) : Bool :=
  b = 0x20 || b = 0x09 || b = 0x0A || b = 0x0D

/-- The bytes after white space. -/
def skipBlank (bytes : Bytes) : Bytes :=
  bytes.dropWhile isBlank

/-- A decimal digit. -/
def isDigit (b : UInt8) : Bool :=
  0x30 ≤ b && b ≤ 0x39

/-- The value of a hexadecimal digit. -/
def hexValue? (b : UInt8) : Option Nat :=
  if 0x30 ≤ b && b ≤ 0x39 then some (b.toNat - 0x30)
  else if 0x61 ≤ b && b ≤ 0x66 then some (b.toNat - 0x61 + 10)
  else if 0x41 ≤ b && b ≤ 0x46 then some (b.toNat - 0x41 + 10)
  else none

/-- The number that four hexadecimal digits spell. -/
def hexValue4? (a b c d : UInt8) : Option Nat := do
  let a ← hexValue? a
  let b ← hexValue? b
  let c ← hexValue? c
  let d ← hexValue? d
  return ((a * 16 + b) * 16 + c) * 16 + d

/-- A byte that may follow a backslash as an escape of its own. -/
def isSimpleEscape (b : UInt8) : Bool :=
  b = 0x22 || b = 0x5C || b = 0x2F || b = 0x62 || b = 0x66 || b = 0x6E || b = 0x72 || b = 0x74

/-- The bytes of a string up to its closing quote, escapes kept, and the bytes
after it. -/
def stringBody? : Bytes → Option (Bytes × Bytes)
  | [] => none
  | 0x22 :: rest => some ([], rest)
  | 0x5C :: 0x75 :: a :: b :: c :: d :: rest =>
    if (hexValue4? a b c d).isSome then
      (stringBody? rest).map fun (raw, after) =>
        (0x5C :: 0x75 :: a :: b :: c :: d :: raw, after)
    else none
  | 0x5C :: e :: rest =>
    if isSimpleEscape e then
      (stringBody? rest).map fun (raw, after) => (0x5C :: e :: raw, after)
    else none
  | b :: rest =>
    if b = 0x5C || b < 0x20 then none
    else (stringBody? rest).map fun (raw, after) => (b :: raw, after)

/-- The digits at the start, at least one, and the bytes after them. -/
def digits? (bytes : Bytes) : Option (Bytes × Bytes) :=
  let run := bytes.takeWhile isDigit
  if run = [] then none else some (run, bytes.drop run.length)

/-- The whole part of a number: a zero, or digits that start with none. -/
def whole? (bytes : Bytes) : Option (Bytes × Bytes) :=
  match bytes with
  | 0x30 :: rest => some ([0x30], rest)
  | bytes => digits? bytes

/-- The fraction of a number, if a point follows. -/
def fraction? (bytes : Bytes) : Option (Option Bytes × Bytes) :=
  match bytes with
  | 0x2E :: rest => (digits? rest).map fun (run, after) => (some run, after)
  | bytes => some (none, bytes)

/-- The exponent of a number, if one follows: whether it is negative, and its
digits. -/
def exponent? (bytes : Bytes) : Option (Option (Bool × Bytes) × Bytes) :=
  match bytes with
  | e :: rest =>
    if e = 0x65 || e = 0x45 then
      let (negative, rest) :=
        match rest with
        | 0x2D :: rest => (true, rest)
        | 0x2B :: rest => (false, rest)
        | rest => (false, rest)
      (digits? rest).map fun (run, after) => (some (negative, run), after)
    else some (none, bytes)
  | [] => some (none, [])

/-- A number and the bytes after it. -/
def number? (bytes : Bytes) : Option (JsonNumber × Bytes) := do
  let (negative, bytes) :=
    match bytes with
    | 0x2D :: rest => (true, rest)
    | bytes => (false, bytes)
  let (whole, bytes) ← whole? bytes
  let (fraction, bytes) ← fraction? bytes
  let (exponent, bytes) ← exponent? bytes
  return (⟨negative, whole, fraction, exponent⟩, bytes)

mutual

/-- A value and the bytes after it; white space may precede it. -/
def value? : Nat → Bytes → Option (JsonValue × Bytes)
  | 0, _ => none
  | fuel + 1, bytes =>
    match skipBlank bytes with
    | 0x22 :: rest => (stringBody? rest).map fun (raw, after) => (.string raw, after)
    | 0x5B :: rest =>
      match skipBlank rest with
      | 0x5D :: after => some (.array [], after)
      | rest => (items? fuel rest).map fun (items, after) => (.array items, after)
    | 0x7B :: rest =>
      match skipBlank rest with
      | 0x7D :: after => some (.object [], after)
      | rest => (members? fuel rest).map fun (members, after) => (.object members, after)
    | 0x6E :: 0x75 :: 0x6C :: 0x6C :: after => some (.null, after)
    | 0x74 :: 0x72 :: 0x75 :: 0x65 :: after => some (.boolean true, after)
    | 0x66 :: 0x61 :: 0x6C :: 0x73 :: 0x65 :: after => some (.boolean false, after)
    | bytes => (number? bytes).map fun (n, after) => (.number n, after)

/-- The items of an array up to its closing bracket, at least one. -/
def items? : Nat → Bytes → Option (List JsonValue × Bytes)
  | 0, _ => none
  | fuel + 1, bytes =>
    match value? fuel bytes with
    | none => none
    | some (item, rest) =>
      match skipBlank rest with
      | 0x5D :: after => some ([item], after)
      | 0x2C :: rest => (items? fuel rest).map fun (items, after) => (item :: items, after)
      | _ => none

/-- The members of an object up to its closing brace, at least one. -/
def members? : Nat → Bytes → Option (List (Bytes × JsonValue) × Bytes)
  | 0, _ => none
  | fuel + 1, bytes =>
    match skipBlank bytes with
    | 0x22 :: rest =>
      match stringBody? rest with
      | none => none
      | some (key, rest) =>
        match skipBlank rest with
        | 0x3A :: rest =>
          match value? fuel rest with
          | none => none
          | some (value, rest) =>
            match skipBlank rest with
            | 0x7D :: after => some ([(key, value)], after)
            | 0x2C :: rest =>
              (members? fuel rest).map fun (members, after) => ((key, value) :: members, after)
            | _ => none
        | _ => none
    | _ => none

end

/-- The document that bytes are, if they are one. -/
def parse? (bytes : Bytes) : Option JsonValue :=
  match value? (2 * bytes.length + 2) bytes with
  | some (value, rest) => if skipBlank rest = [] then some value else none
  | none => none

end JsonValue

end TcpJournal
