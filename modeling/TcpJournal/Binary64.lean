import TcpJournal.Decimal

/-!
# Binary64 numbers

A finite number is an exact product of a whole significand and a power of two.
Every operation computes its result as an exact ratio first and then takes the
nearest representable number, ties to the even significand
(`Binary64.nearest`); text is the exact value rounded once more, on the decimal
grid (`Binary64.fixed`).
-/

namespace TcpJournal

/-- A binary64 datum: `± significand * 2 ^ exponent`, an infinity, or not a
number. -/
inductive Binary64 where
  | finite (negative : Bool) (significand : Nat) (exponent : Int)
  | infinite (negative : Bool)
  | nan
  deriving DecidableEq, Repr

namespace Binary64

/-- The exponent of the least unit in the last place. -/
def minExponent : Int := -1074

/-- The exponent of the greatest unit in the last place. -/
def maxExponent : Int := 971

/-- The greatest `k` with `2 ^ k ≤ num / den`, for positive `num` and `den`. -/
def floorLog2 (num den : Nat) : Int :=
  let k : Int := (num.log2 : Int) - den.log2
  let reached := if 0 ≤ k then den * 2 ^ k.toNat ≤ num else den ≤ num * 2 ^ (-k).toNat
  if reached then k else k - 1

/-- The number of units `2 ^ exponent` in `num / den`, as a numerator and a
denominator. -/
def inUnits (num den : Nat) (exponent : Int) : Nat × Nat :=
  if 0 ≤ exponent then (num, den * 2 ^ exponent.toNat)
  else (num * 2 ^ (-exponent).toNat, den)

/-- The datum nearest to `± num / den`, ties to the even significand; beyond
the greatest finite number it is an infinity. -/
def nearest (negative : Bool) (num den : Nat) : Binary64 :=
  if num = 0 then finite negative 0 minExponent
  else
    let exponent := max minExponent (floorLog2 num den - 52)
    let (n, d) := inUnits num den exponent
    let significand := Decimal.roundedQuotient n d
    let (significand, exponent) :=
      if significand = 2 ^ 53 then (2 ^ 52, exponent + 1) else (significand, exponent)
    if maxExponent < exponent then infinite negative
    else finite negative significand exponent

/-- Positive zero. -/
def zero : Binary64 := finite false 0 minExponent

/-- The datum nearest to a whole number. -/
def ofInt (i : Int) : Binary64 :=
  nearest (decide (i < 0)) i.natAbs 1

/-- The magnitude `significand * 2 ^ exponent` as a numerator and a denominator. -/
def ratio (significand : Nat) (exponent : Int) : Nat × Nat :=
  if 0 ≤ exponent then (significand * 2 ^ exponent.toNat, 1)
  else (significand, 2 ^ (-exponent).toNat)

/-- The correctly rounded product. -/
def mul : Binary64 → Binary64 → Binary64
  | finite s m e, finite s' m' e' =>
    let (n, d) := ratio (m * m') (e + e')
    nearest (s != s') n d
  | infinite s, finite s' m _ | finite s m _, infinite s' =>
    if m = 0 then nan else infinite (s != s')
  | infinite s, infinite s' => infinite (s != s')
  | nan, _ | _, nan => nan

/-- The correctly rounded quotient. -/
def div : Binary64 → Binary64 → Binary64
  | finite s m e, finite s' m' e' =>
    if m' = 0 then (if m = 0 then nan else infinite (s != s'))
    else
      let (n, d) := ratio m e
      let (n', d') := ratio m' e'
      nearest (s != s') (n * d') (d * n')
  | infinite s, finite s' _ _ => infinite (s != s')
  | finite s _ _, infinite s' => finite (s != s') 0 minExponent
  | infinite _, infinite _ => nan
  | nan, _ | _, nan => nan

/-- The opposite number. -/
def neg : Binary64 → Binary64
  | finite s m e => finite (!s) m e
  | infinite s => infinite (!s)
  | nan => nan

/-- A magnitude with its sign in units of `2 ^ unit`, for a unit that is no
greater than its own. -/
def inUnit (negative : Bool) (significand : Nat) (exponent unit : Int) : Int :=
  let n : Int := significand * 2 ^ (exponent - unit).toNat
  if negative then -n else n

/-- The correctly rounded sum. -/
def add : Binary64 → Binary64 → Binary64
  | finite s m e, finite s' m' e' =>
    if m = 0 then (if m' = 0 then finite (s && s') 0 minExponent else finite s' m' e')
    else if m' = 0 then finite s m e
    else
      let unit := min e e'
      let sum := inUnit s m e unit + inUnit s' m' e' unit
      let (n, d) := ratio sum.natAbs unit
      nearest (decide (sum < 0)) n d
  | infinite s, infinite s' => if s = s' then infinite s else nan
  | infinite s, finite .. | finite .., infinite s => infinite s
  | nan, _ | _, nan => nan

/-- The correctly rounded difference. -/
def sub (x y : Binary64) : Binary64 := add x y.neg

/-- What is left of a number when another one is taken away from it as often as
possible; it has the sign of the first. -/
def mod : Binary64 → Binary64 → Binary64
  | finite s m e, finite _ m' e' =>
    if m' = 0 then nan
    else
      let unit := min e e'
      let rest := (inUnit false m e unit).natAbs % (inUnit false m' e' unit).natAbs
      let (n, d) := ratio rest unit
      nearest s n d
  | finite s m e, infinite _ => finite s m e
  | _, _ => nan

/-- The whole part of a finite number. -/
def whole? : Binary64 → Option Int
  | finite negative significand exponent =>
    let (n, d) := ratio significand exponent
    let whole : Int := n / d
    some (if negative then -whole else whole)
  | infinite _ | nan => none

/-- The first number is less than the second. -/
def isLess : Binary64 → Binary64 → Bool
  | finite s m e, finite s' m' e' =>
    let unit := min e e'
    decide (inUnit s m e unit < inUnit s' m' e' unit)
  | infinite s, infinite s' => s && !s'
  | infinite s, finite .. => s
  | finite .., infinite s => !s
  | nan, _ | _, nan => false

/-- The numbers are equal. -/
def isEqual : Binary64 → Binary64 → Bool
  | finite s m e, finite s' m' e' =>
    let unit := min e e'
    decide (inUnit s m e unit = inUnit s' m' e' unit)
  | infinite s, infinite s' => s = s'
  | _, _ => false

/-- A number that is zero. -/
def isZero : Binary64 → Bool
  | finite _ m _ => m = 0
  | infinite _ | nan => false

/-- Neither an infinity nor a missing number. -/
def isFinite : Binary64 → Bool
  | finite .. => true
  | infinite _ | nan => false

/-- The datum with the given interchange encoding: a sign bit, eleven exponent
bits and fifty-two fraction bits. -/
def ofBits (bits : UInt64) : Binary64 :=
  let n := bits.toNat
  let negative := decide (2 ^ 63 ≤ n)
  let biased : Nat := n / 2 ^ 52 % 2 ^ 11
  let fraction := n % 2 ^ 52
  if biased = 0 then finite negative fraction minExponent
  else if biased = 2047 then (if fraction = 0 then infinite negative else nan)
  else finite negative (2 ^ 52 + fraction) ((biased : Int) - 1075)

/-- The interchange encoding of a datum whose significand is normalised, as
those of `nearest` and `ofBits` are. -/
def toBits : Binary64 → UInt64
  | finite negative significand exponent =>
    let magnitude :=
      if significand < 2 ^ 52 then significand
      else (exponent + 1075).toNat * 2 ^ 52 + (significand - 2 ^ 52)
    UInt64.ofNat (magnitude + if negative then 2 ^ 63 else 0)
  | infinite negative => UInt64.ofNat (2047 * 2 ^ 52 + if negative then 2 ^ 63 else 0)
  | nan => UInt64.ofNat (2047 * 2 ^ 52 + 2 ^ 51)

/-- A minus sign in front of a text. -/
def signed (negative : Bool) (text : List Char) : List Char :=
  if negative then '-' :: text else text

/-- The exact value rounded to `places` decimals, ties to even, in positional
notation; zero keeps its sign. -/
def fixed (places : Nat) : Binary64 → List Char
  | finite negative significand exponent =>
    let (n, d) := ratio significand exponent
    signed negative (Decimal.fixed places (Decimal.roundedQuotient (n * 10 ^ places) d))
  | infinite negative => signed negative "inf".toList
  | nan => "NaN".toList

end Binary64

end TcpJournal
