import TcpJournal.Shell.Conversion
import TcpJournal.Shell.Glob
import TcpJournal.Shell.Rules.Syntax

/-!
# Values of scripts

A value is a number or a text, and each is taken for the other where that is
needed.  A text from the input that looks like a number is compared as one.
Whole numbers are shown with all their digits, others by a format.
-/

namespace TcpJournal

namespace Shell

namespace Rules

/-- A value; `input` is a text that came from outside. -/
inductive Value where
  | unset
  | number (x : Binary64)
  | text (t : Chars)
  | input (t : Chars)
  deriving DecidableEq, Repr

namespace Value

/-- The number that a text from outside looks like. -/
def numeral? (text : Chars) : Option Binary64 :=
  match leadingNumber? text with
  | some (x, rest) => if rest.all isBlankChar then some x else none
  | none => none

/-- The number for a value. -/
def toNumber : Value → Binary64
  | unset => .zero
  | number x => x
  | text t | input t => ((leadingNumber? t).map Prod.fst).getD .zero

/-- A value that is true. -/
def isTrue : Value → Bool
  | unset => false
  | number x => !x.isZero
  | text t => t ≠ []
  | input t =>
    match numeral? t with
    | some x => !x.isZero
    | none => t ≠ []

/-- The whole number that a number is, if it is one and not too great. -/
def integer? (x : Binary64) : Option Int :=
  x.whole?.filter fun i => (Binary64.ofInt i).isEqual x && decide (-(2 ^ 63) ≤ i ∧ i ≤ 2 ^ 64)

/-- A number by a format; one that is missing has a sign. -/
def numberText (format : Chars) (x : Binary64) : Chars :=
  match integer? x with
  | some i => Decimal.ofInt (min i (2 ^ 64 - 1))
  | none =>
    match x with
    | .nan => "-nan".toList
    | x =>
      match format with
      | '%' :: rest =>
        match Conversion.read? rest [] with
        | some (v, rest, _) => v.ofNumber x ++ rest
        | none => format
      | format => format

/-- The text for a value. -/
def toText (format : Chars) : Value → Chars
  | unset => []
  | number x => numberText format x
  | text t | input t => t

/-- The number that a value is compared as, if it is one. -/
def compared? : Value → Option Binary64
  | unset => some .zero
  | number x => some x
  | text _ => none
  | input t => numeral? t

/-- The order of two values: of numbers if both are numbers, else of texts.  Numbers are
equal if neither is less, so what is no number equals all of them. -/
def compare (format : Chars) (a b : Value) : Comparison → Bool := fun comparison =>
  let (isLess, isEqual, isGreater) : Bool × Bool × Bool :=
    match a.compared?, b.compared? with
    | some x, some y => (x.isLess y, !x.isLess y && !y.isLess x, y.isLess x)
    | _, _ =>
      let s := a.toText format
      let t := b.toText format
      (decide (s < t), decide (s = t), decide (t < s))
  match comparison with
  | .less => isLess
  | .atMost => isLess || isEqual
  | .equal => isEqual
  | .different => !isEqual
  | .greater => isGreater
  | .atLeast => isGreater || isEqual

/-- A truth value as a number. -/
def ofBool (b : Bool) : Value :=
  .number (if b then .ofInt 1 else .zero)

/-- A whole number. -/
def ofNat (n : Nat) : Value := .number (.ofInt n)

end Value

namespace Operator

/-- A function of real numbers, rounded. -/
def viaBits (f : Float → Float) (x : Binary64) : Binary64 :=
  .ofBits (f (Float.ofBits x.toBits)).toBits

/-- The result of an operation. -/
def apply (operator : Operator) (x y : Binary64) : Binary64 :=
  match operator with
  | add => x.add y
  | sub => x.sub y
  | mul => x.mul y
  | div => x.div y
  | mod => x.mod y
  | pow => .ofBits (Float.pow (Float.ofBits x.toBits) (Float.ofBits y.toBits)).toBits

end Operator

/-- The elements of an array by their subscripts, the last one added first. -/
abbrev Table := List (Chars × Value)

namespace Table

/-- The hash of a subscript: each byte is mixed in and multiplied up. -/
def hash (subscript : Chars) : UInt32 :=
  subscript.foldl (fun h c => (h ^^^ UInt32.ofNat c.toNat) * 16777619) 2166136261

/-- The subscripts in the order in which they are visited: by the last bits of
their hashes, and of those that share them the last one added first. -/
def visited (table : Table) : List Chars :=
  let place (subscript : Chars) : Nat := (hash subscript).toNat % 64
  (table.map Prod.fst).mergeSort fun a b => decide (place a ≤ place b)

/-- The table with a value for a subscript. -/
def put (table : Table) (subscript : Chars) (value : Value) : Table :=
  if table.any fun entry => entry.1 = subscript then
    table.map fun entry => if entry.1 = subscript then (subscript, value) else entry
  else (subscript, value) :: table

/-- The table without a subscript. -/
def remove (table : Table) (subscript : Chars) : Table :=
  table.filter fun entry => entry.1 ≠ subscript

end Table

end Rules

end Shell

end TcpJournal
