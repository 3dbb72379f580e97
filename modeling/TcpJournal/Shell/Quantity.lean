import TcpJournal.Binary64
import TcpJournal.Shell.Signal
import TcpJournal.Shell.Syntax
import TcpJournal.Text

/-!
# Quantities

A text that starts with a number stands for an exact ratio, an infinity or no
number at all.  A float format keeps so many bits of a ratio: rounding takes the
nearest quantity that it has, ties to the even significand.
-/

namespace TcpJournal

namespace Shell

/-- A number as it is written: an exact ratio with a sign, an infinity, or no
number. -/
inductive Quantity where
  | ratio (negative : Bool) (num den : Nat)
  | infinite (negative : Bool)
  | nan (negative : Bool)
  deriving DecidableEq, Repr

/-- A format of binary numbers: the length of the significand, the exponents of
the least and the greatest unit in the last place, and the number of bits that a
hexadecimal text shows in front of its point. -/
structure FloatFormat where
  bits : Nat
  least : Int
  greatest : Int
  leadingBits : Nat
  deriving DecidableEq, Repr

namespace FloatFormat

/-- Numbers of sixty-four bits. -/
def double : FloatFormat := ⟨53, Binary64.minExponent, Binary64.maxExponent, 1⟩

/-- Numbers of eighty bits, whose significand has all of its bits written out. -/
def extended : FloatFormat := ⟨64, -16445, 16320, 4⟩

/-- The exponent of the unit in the last place of a positive ratio. -/
def unit (f : FloatFormat) (num den : Nat) : Int :=
  max f.least (Binary64.floorLog2 num den - (f.bits - 1 : Nat))

end FloatFormat

namespace Quantity

/-- Positive zero. -/
def zero : Quantity := .ratio false 0 1

/-- The quantity that a whole number is. -/
def ofNat (n : Nat) : Quantity := .ratio false n 1

/-- The quantity that a binary number is; what is no number has no sign. -/
def ofBinary64 : Binary64 → Quantity
  | .finite negative significand exponent =>
    let (n, d) := Binary64.ratio significand exponent
    .ratio negative n d
  | .infinite negative => .infinite negative
  | .nan => .nan false

/-- The binary number nearest to a quantity. -/
def toBinary64 : Quantity → Binary64
  | .ratio negative num den => Binary64.nearest negative num den
  | .infinite negative => .infinite negative
  | .nan _ => .nan

/-- The nearest quantity of a format. -/
def rounded (f : FloatFormat) : Quantity → Quantity
  | .ratio negative num den =>
    if num = 0 then .ratio negative 0 1
    else
      let unit := f.unit num den
      let (n, d) := Binary64.inUnits num den unit
      let significand := Decimal.roundedQuotient n d
      let last := if significand = 2 ^ f.bits then unit + 1 else unit
      if f.greatest < last then .infinite negative
      else
        let (n, d) := Binary64.ratio significand unit
        .ratio negative n d
  | q => q

/-- A format has no quantity near enough: the ratio is too great, or so small
that bits of it are lost. -/
def isOutOfRange (f : FloatFormat) (q : Quantity) : Bool :=
  match q, q.rounded f with
  | .ratio .., .infinite _ => true
  | .ratio _ num den, .ratio _ n d =>
    num ≠ 0 && Binary64.floorLog2 num den - (f.bits - 1 : Nat) < f.least && num * d ≠ n * den
  | _, _ => false

end Quantity

/-- A blank in front of a number. -/
def isBlankChar (c : Char) : Bool :=
  c = ' ' || ('\t' ≤ c && c ≤ '\x0d')

/-- The sign at the front of a text, and the text behind it. -/
def leadingSign (text : Chars) : Bool × Chars :=
  match text with
  | '-' :: rest => (true, rest)
  | '+' :: rest => (false, rest)
  | rest => (false, rest)

/-- The exponent at the front of a text, and the text behind it. -/
def leadingExponent (text : Chars) : Int × Chars :=
  match text with
  | e :: rest =>
    let (negative, digits) := leadingSign rest
    let exponent := digits.takeWhile Text.isDigit
    if (e = 'e' || e = 'E') && exponent ≠ [] then
      let n : Int := min (Decimal.value exponent) 20000
      (if negative then -n else n, digits.drop exponent.length)
    else (0, text)
  | [] => (0, [])

/-- A row of digits with a point in it, at the front of a text: the digits in
front of the point, those behind it, and the text behind them. -/
def leadingDigits (isDigit : Char → Bool) (text : Chars) : Chars × Chars × Chars :=
  let whole := text.takeWhile isDigit
  match text.drop whole.length with
  | '.' :: after =>
    let fraction := after.takeWhile isDigit
    if whole = [] && fraction = [] then ([], [], text)
    else (whole, fraction, after.drop fraction.length)
  | rest => (whole, [], rest)

/-- The word for an infinity or for what is no number at the front of a text,
and the text behind it; round brackets may follow the latter. -/
def leadingWord? (negative : Bool) (text : Chars) : Option (Quantity × Chars) :=
  let startsWith (word : String) : Bool :=
    (text.take word.length).map lowerCase = word.toList
  if startsWith "infinity" then some (.infinite negative, text.drop 8)
  else if startsWith "inf" then some (.infinite negative, text.drop 3)
  else if startsWith "nan" then
    let rest := text.drop 3
    match rest with
    | '(' :: inside =>
      let name := inside.takeWhile fun c => c.isAlphanum || c = '_'
      match inside.drop name.length with
      | ')' :: after => some (.nan negative, after)
      | _ => some (.nan negative, rest)
    | rest => some (.nan negative, rest)
  else none

/-- The decimal quantity at the front of a text behind blanks, if there is one,
and the text behind it.  Powers of ten beyond every format are cut off. -/
def leadingDecimalQuantity? (text : Chars) : Option (Quantity × Chars) :=
  let (negative, text) := leadingSign (text.dropWhile isBlankChar)
  let (whole, fraction, rest) := leadingDigits Text.isDigit text
  if whole = [] && fraction = [] then leadingWord? negative text
  else
    let (exponent, rest) := leadingExponent rest
    let digits := Decimal.value (whole ++ fraction)
    let size := ((whole ++ fraction).dropWhile (· = '0')).length
    let power : Int := max (-5100 - (size : Int)) (min 5100 (exponent - fraction.length))
    some (if 0 ≤ power then .ratio negative (digits * 10 ^ power.toNat) 1
      else .ratio negative digits (10 ^ (-power).toNat), rest)

/-- The hexadecimal quantity at the front of a text behind blanks, if there is
one, and the text behind it; its exponent is a power of two. -/
def leadingHexadecimalQuantity? (text : Chars) : Option (Quantity × Chars) :=
  let (negative, text) := leadingSign (text.dropWhile isBlankChar)
  match text with
  | '0' :: x :: text =>
    let (whole, fraction, rest) := leadingDigits (fun c => (Text.hexValue? c).isSome) text
    if (x ≠ 'x' && x ≠ 'X') || (whole = [] && fraction = []) then none
    else
      let (exponent, rest) := match rest with
        | p :: after => if p = 'p' || p = 'P' then
            let (exponent, behind) := leadingExponent ('e' :: after)
            if behind.length < after.length then (exponent, behind) else (0, rest)
          else (0, rest)
        | [] => (0, [])
      let n := (whole ++ fraction).foldl (fun n c => 16 * n + (Text.hexValue? c).getD 0) 0
      let power : Int := exponent - 4 * fraction.length
      some (if 0 ≤ power then .ratio negative (n * 2 ^ power.toNat) 1
        else .ratio negative n (2 ^ (-power).toNat), rest)
  | _ => none

/-- The quantity at the front of a text behind blanks, if there is one, and the
text behind it. -/
def leadingQuantity? (text : Chars) : Option (Quantity × Chars) :=
  (leadingHexadecimalQuantity? text).orElse fun _ => leadingDecimalQuantity? text

/-- The decimal number at the front of a text behind blanks, if there is one,
and the text behind it. -/
def leadingDecimal? (text : Chars) : Option (Binary64 × Chars) :=
  (leadingDecimalQuantity? text).map fun (q, rest) => (q.toBinary64, rest)

/-- The number at the front of a text behind blanks, if there is one, and the
text behind it. -/
def leadingNumber? (text : Chars) : Option (Binary64 × Chars) :=
  (leadingQuantity? text).map fun (q, rest) => (q.toBinary64, rest)

end Shell

end TcpJournal
