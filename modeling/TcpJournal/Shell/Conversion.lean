import TcpJournal.Shell.Quantity

/-!
# Conversions of values to text

A conversion shows an integer, a number, a character or a text in a field: it
has flags, a least width, a precision and a letter that says how the value is
written.
-/

namespace TcpJournal

namespace Shell

/-- A conversion behind its percent sign. -/
structure Conversion where
  flags : Chars
  width : Nat
  precision : Option Nat
  letter : Char
  deriving DecidableEq, Repr

namespace Conversion

/-- A flag is given. -/
def has (v : Conversion) (flag : Char) : Bool :=
  v.flags.contains flag

/-- A text in its field.  What stands in front of the digits stays in front of
the zeros that fill the field, where zeros may fill it. -/
def inField (v : Conversion) (zeros : Bool) (start digits : Chars) : Chars :=
  let missing := v.width - (start.length + digits.length)
  if v.has '-' then start ++ digits ++ List.replicate missing ' '
  else if zeros && v.has '0' then start ++ List.replicate missing '0' ++ digits
  else List.replicate missing ' ' ++ start ++ digits

/-- The sign of a number in front of its digits. -/
def sign (v : Conversion) (negative : Bool) : Chars :=
  if negative then ['-'] else if v.has '+' then ['+'] else if v.has ' ' then [' '] else []

/-- A text cut to the precision. -/
def ofText (v : Conversion) (text : Chars) : Chars :=
  v.inField false [] (match v.precision with
    | some n => text.take n
    | none => text)

/-- The digits of a number in a base. -/
def digitsIn (base : Nat) (n : Nat) : Chars :=
  Nat.toDigits base n

/-- The digits of a whole number with at least as many as the precision asks
for; a precision of zero shows no zero. -/
def wholeDigits (v : Conversion) (digits : Chars) : Chars :=
  match v.precision with
  | none => digits
  | some n => if n = 0 && digits = ['0'] then [] else Decimal.padLeft '0' n digits

/-- A signed whole number. -/
def ofInt (v : Conversion) (i : Int) : Chars :=
  v.inField v.precision.isNone (v.sign (decide (i < 0))) (v.wholeDigits (Decimal.digits i.natAbs))

/-- A whole number without sign, in the base of the letter. -/
def ofNat (v : Conversion) (n : Nat) : Chars :=
  let alternate := v.has '#'
  match v.letter with
  | 'o' =>
    let digits := v.wholeDigits (digitsIn 8 n)
    let digits := if alternate && digits.head? ≠ some '0' then '0' :: digits else digits
    v.inField v.precision.isNone [] digits
  | 'x' =>
    v.inField v.precision.isNone (if alternate && n ≠ 0 then ['0', 'x'] else [])
      (v.wholeDigits (digitsIn 16 n))
  | 'X' =>
    v.inField v.precision.isNone (if alternate && n ≠ 0 then ['0', 'X'] else [])
      (v.wholeDigits ((digitsIn 16 n).map upperCase))
  | _ => v.inField v.precision.isNone [] (v.wholeDigits (Decimal.digits n))

/-- The greatest `k` with `10 ^ k ≤ num / den`, for positive `num` and `den`. -/
def floorLog10 (num den : Nat) : Int :=
  let k : Int := ((Decimal.digits num).length : Int) - (Decimal.digits den).length
  let reached := if 0 ≤ k then den * 10 ^ k.toNat ≤ num else den ≤ num * 10 ^ (-k).toNat
  if reached then k else k - 1

/-- The digits of a positive ratio rounded to `places + 1` significant ones, as
a whole number, and the power of ten of the first. -/
def scientific (places num den : Nat) : Nat × Int :=
  if num = 0 then (0, 0)
  else
    let k := floorLog10 num den
    let shift := (places : Int) - k
    let n := if 0 ≤ shift then Decimal.roundedQuotient (num * 10 ^ shift.toNat) den
      else Decimal.roundedQuotient num (den * 10 ^ (-shift).toNat)
    if n = 10 ^ (places + 1) then (10 ^ places, k + 1) else (n, k)

/-- Digits with a point behind the first `whole` ones. -/
def pointed (alternate : Bool) (whole : Nat) (digits : Chars) : Chars :=
  let fraction := digits.drop whole
  digits.take whole ++ (if fraction = [] && !alternate then [] else '.' :: fraction)

/-- The text of an exponent. -/
def exponentText (letter : Char) (k : Int) : Chars :=
  letter :: (if k < 0 then '-' else '+') :: Decimal.padLeft '0' 2 (Decimal.digits k.natAbs)

/-- A fraction without the zeros at its end. -/
def trimmedFraction (text : Chars) : Chars :=
  if text.contains '.' then
    let rest := text.reverse.dropWhile (· = '0')
    (if rest.head? = some '.' then rest.drop 1 else rest).reverse
  else text

/-- The digits of a positive ratio as the letter asks for. -/
def ratioText (v : Conversion) (num den : Nat) : Chars :=
  let places := v.precision.getD 6
  let alternate := v.has '#'
  let positional (places : Nat) : Chars :=
    let n := Decimal.roundedQuotient (num * 10 ^ places) den
    let digits := Decimal.padLeft '0' (places + 1) (Decimal.digits n)
    pointed alternate (digits.length - places) digits
  let exponential (letter : Char) (places : Nat) : Chars × Chars :=
    let (n, k) := scientific places num den
    let digits := Decimal.padLeft '0' (places + 1) (Decimal.digits n)
    (pointed alternate 1 digits, exponentText letter k)
  let general (letter : Char) : Chars :=
    let significant := max places 1
    let k := (scientific (significant - 1) num den).2
    let trim (text : Chars) : Chars := if alternate then text else trimmedFraction text
    if -4 ≤ k && k < significant then trim (positional ((significant : Int) - 1 - k).toNat)
    else
      let (text, exponent) := exponential letter (significant - 1)
      trim text ++ exponent
  match v.letter with
  | 'e' => let (text, exponent) := exponential 'e' places; text ++ exponent
  | 'E' => let (text, exponent) := exponential 'E' places; text ++ exponent
  | 'g' => general 'e'
  | 'G' => general 'E'
  | _ => positional places

/-- The digits of a ratio to the base of sixteen behind their mark, and the power
of two that they are multiplied by.  Without a precision all the digits that
the format of the number has are written, but for zeros at the end. -/
def hexadecimalText (v : Conversion) (f : FloatFormat) (num den : Nat) : Chars :=
  let first : Int := max (Binary64.floorLog2 num den) (f.least + (f.bits - 1 : Nat))
  let power : Int := if num = 0 then 0 else first - (f.leadingBits - 1 : Nat)
  let places := v.precision.getD ((f.bits - f.leadingBits) / 4)
  let (n, d) := Binary64.inUnits (num * 16 ^ places) den power
  let n := Decimal.roundedQuotient n d
  let (n, power) := if n = 16 ^ (places + 1) then (16 ^ places, power + 4) else (n, power)
  let digits := Decimal.padLeft '0' (places + 1) (digitsIn 16 n)
  let fraction := digits.drop (digits.length - places)
  let fraction :=
    if v.precision.isSome then fraction
    else (fraction.reverse.dropWhile (· = '0')).reverse
  let digits := pointed (v.has '#') 1 (digits.take (digits.length - places) ++ fraction)
  let text := digits ++ 'p' :: (if power < 0 then '-' else '+') :: Decimal.digits power.natAbs
  if v.letter = 'A' then text.map upperCase else text

/-- A quantity that a format of numbers has. -/
def ofQuantity (v : Conversion) (f : FloatFormat) (q : Quantity) : Chars :=
  let isUpper : Bool := 'A' ≤ v.letter && v.letter ≤ 'Z'
  let word (text : String) : Chars :=
    if isUpper then text.toList.map upperCase else text.toList
  match q with
  | .ratio negative num den =>
    if v.letter = 'a' || v.letter = 'A' then
      v.inField true (v.sign negative ++ word "0x") (v.hexadecimalText f num den)
    else v.inField true (v.sign negative) (v.ratioText num den)
  | .infinite negative => v.inField false (v.sign negative) (word "inf")
  | .nan negative => v.inField false (v.sign negative) (word "nan")

/-- A number. -/
def ofNumber (v : Conversion) (x : Binary64) : Chars :=
  v.ofQuantity .double (.ofBinary64 x)

/-- What may stand in a conversion: the flags in front of the width, and the
letters behind the precision that say nothing. -/
structure Form where
  flags : Chars
  sizes : Chars
  deriving DecidableEq, Repr

/-- Conversions with five flags. -/
def Form.plain : Form := ⟨"#-+ 0".toList, []⟩

/-- Conversions that also say how digits are grouped and how large a value is. -/
def Form.sized : Form := ⟨"#-+ 0'I".toList, "lLhjtz".toList⟩

/-- The conversion at the front of a text behind a percent sign, and the text
behind it.  Stars are filled from numbers, of which those left are answered. -/
def readBy? (form : Form) (text : Chars) (stars : List Int) :
    Option (Conversion × Chars × List Int) :=
  let flags := text.takeWhile form.flags.contains
  let text := text.drop flags.length
  let (width, text, stars) : Int × Chars × List Int :=
    match text with
    | '*' :: rest => (stars.headD 0, rest, stars.tail)
    | text =>
      let digits := text.takeWhile Text.isDigit
      (Decimal.value digits, text.drop digits.length, stars)
  let (precision, text, stars) : Option Int × Chars × List Int :=
    match text with
    | '.' :: '*' :: rest => (some (stars.headD 0), rest, stars.tail)
    | '.' :: rest =>
      let digits := rest.takeWhile Text.isDigit
      (some (Decimal.value digits), rest.drop digits.length, stars)
    | text => (none, text, stars)
  match text.dropWhile form.sizes.contains with
  | [] => none
  | letter :: rest =>
    let flags := if width < 0 then '-' :: flags else flags
    let precision := (precision.filter (0 ≤ ·)).map Int.toNat
    some (⟨flags, width.natAbs, precision, letter⟩, rest, stars)

/-- The conversion at the front of a text, with five flags. -/
def read? : Chars → List Int → Option (Conversion × Chars × List Int) :=
  readBy? .plain

/-- The number of stars in a conversion. -/
def starCountBy (form : Form) (text : Chars) : Nat :=
  let isPart (c : Char) : Bool :=
    Text.isDigit c || form.flags.contains c || c = '.' || c = '*'
  (text.takeWhile isPart).count '*'

/-- The number of stars in a conversion with five flags. -/
def starCount : Chars → Nat := starCountBy .plain

end Conversion

/-- The character of an escape sequence of one letter. -/
def simpleEscape? (c : Char) : Option Char :=
  match c with
  | '\\' => some '\\'
  | 'a' => some '\x07'
  | 'b' => some '\x08'
  | 'f' => some '\x0c'
  | 'n' => some '\n'
  | 'r' => some '\x0d'
  | 't' => some '\t'
  | 'v' => some '\x0b'
  | _ => none

/-- An octal digit. -/
def isOctal (c : Char) : Bool := '0' ≤ c && c ≤ '7'

/-- The byte of up to `limit` octal digits at the front, and the text behind
them. -/
def octalByte (limit : Nat) (text : Chars) : Char × Chars :=
  let digits := (text.take limit).takeWhile isOctal
  let n := digits.foldl (fun n c => 8 * n + Decimal.digitValue c) 0
  (Char.ofNat (n % 256), text.drop digits.length)

/-- The byte of up to two hexadecimal digits at the front, if there are any,
and the text behind them. -/
def hexByte? (text : Chars) : Option (Char × Chars) :=
  let digits := (text.take 2).takeWhile fun c => (Text.hexValue? c).isSome
  if digits = [] then none
  else
    let n := digits.foldl (fun n c => 16 * n + (Text.hexValue? c).getD 0) 0
    some (Char.ofNat n, text.drop digits.length)

end Shell

end TcpJournal
