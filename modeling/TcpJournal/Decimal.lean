import TcpJournal.Power

/-!
# Decimal numbers as text

Counts, calendar parts and fractions are written in decimal.  A quotient that
has to be cut to whole units is rounded to the nearest one, and a tie goes to
the even neighbour (`Decimal.roundedQuotient`).
-/

namespace TcpJournal

namespace Decimal

/-- The shortest decimal digits of a number. -/
def digits (n : Nat) : List Char :=
  Nat.toDigits 10 n

/-- The decimal text of a number consists of digits. -/
theorem isDigit_of_mem_digits {n : Nat} {c : Char} (h : c ∈ digits n) : c.isDigit = true :=
  Nat.isDigit_of_mem_toDigits (by decide) (by decide) h

/-- A text extended on the left to at least `width` characters. -/
def padLeft (fill : Char) (width : Nat) (text : List Char) : List Char :=
  List.replicate (width - text.length) fill ++ text

/-- The digits of a number with leading zeros up to `width`. -/
def padded (width n : Nat) : List Char :=
  padLeft '0' width (digits n)

/-- The decimal text of an integer, with a minus sign if it is negative. -/
def ofInt (i : Int) : List Char :=
  if i < 0 then '-' :: digits i.natAbs else digits i.natAbs

/-- The value of a decimal digit. -/
def digitValue (c : Char) : Nat :=
  c.toNat - '0'.toNat

/-- The value of a run of decimal digits. -/
def value (text : List Char) : Nat :=
  text.foldl (fun n c => 10 * n + digitValue c) 0

/-- A number of units of `10 ^ -places`, written with exactly `places` digits
after the point. -/
def fixed (places units : Nat) : List Char :=
  digits (units / 10 ^ places) ++ '.' :: padded places (units % 10 ^ places)

/-- The whole number nearest to `num / den`, the even one of two equally near. -/
def roundedQuotient (num den : Nat) : Nat :=
  let quotient := num / den
  let excess := 2 * (num % den)
  if excess < den then quotient
  else if den < excess then quotient + 1
  else quotient + quotient % 2

end Decimal

end TcpJournal
