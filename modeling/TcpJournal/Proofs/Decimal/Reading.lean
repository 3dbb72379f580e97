import Mathlib.Data.List.Basic
import TcpJournal.Decimal
import TcpJournal.Text

/-!
# Decimal numbers read back

The digits of a number, with zeros in front or without, have the number as their value.

What holds of the digits of a number, in whatever base, is shown by adding digits at the end
(`Decimal.digits_induction`).
-/

namespace TcpJournal

namespace Decimal

/-! ## Numbers by their digits -/

section

variable {base : Nat} (hbase : 1 < base)

include hbase

/-- A number is a digit, or a digit behind a positive number. -/
theorem digits_induction {motive : Nat → Prop} (n : Nat) (digit : ∀ d, d < base → motive d)
    (concat : ∀ n d, 0 < n → d < base → motive n → motive (base * n + d)) : motive n := by
  induction n using Nat.strongRecOn with
  | ind n ih =>
    by_cases hsmall : n < base
    · exact digit n hsmall
    · have hfront : 0 < n / base := Nat.div_pos (Nat.le_of_not_lt hsmall) (by omega)
      have hless : n / base < n := Nat.div_lt_self (by omega) hbase
      have hlast : n % base < base := Nat.mod_lt _ (by omega)
      rw [← Nat.div_add_mod n base]
      exact concat _ _ hfront hlast (ih _ hless)

theorem toDigits_concat {n d : Nat} (hn : 0 < n) (hd : d < base) :
    Nat.toDigits base (base * n + d) = Nat.toDigits base n ++ [Nat.digitChar d] := by
  rw [← Nat.toDigits_append_toDigits hbase hn hd, Nat.toDigits_of_lt_base hd]

/-- Only zero is written with a zero in front. -/
theorem eq_zero_of_head?_toDigits {n : Nat} (h : (Nat.toDigits base n).head? = some '0') :
    n = 0 := by
  induction n using digits_induction hbase with
  | digit d hd =>
    rw [Nat.toDigits_of_lt_base hd] at h
    exact Nat.digitChar_eq_zero.mp (Option.some.inj h)
  | concat n d hn hd ih =>
    rw [toDigits_concat hbase hn hd, List.head?_append_of_ne_nil _ Nat.toDigits_ne_nil] at h
    exact absurd (ih h) (Nat.ne_of_gt hn)

end

/-! ## Decimal digits -/

theorem value_eq_ofDigitChars (text : List Char) : value text = Nat.ofDigitChars 10 text 0 :=
  Nat.ofDigitChars_eq_foldl.symm

theorem value_padded (width n : Nat) : value (padded width n) = n := by
  rw [value_eq_ofDigitChars, padded, padLeft, Nat.ofDigitChars_append,
    Nat.ofDigitChars_replicate_zero, Nat.mul_zero, digits, Nat.ofDigitChars_ten_toDigits]

theorem isDigit_eq (c : Char) : Text.isDigit c = c.isDigit := by
  rw [Bool.eq_iff_iff, Text.isDigit, Char.isDigit]
  simp only [Bool.and_eq_true, decide_eq_true_eq, Char.le_def, ge_iff_le]

theorem isDigit_of_mem_padded {width n : Nat} {c : Char} (h : c ∈ padded width n) :
    Text.isDigit c = true := by
  rcases List.mem_append.mp h with hzero | hdigit
  · rw [List.eq_of_mem_replicate hzero]
    decide
  · rw [isDigit_eq]
    exact isDigit_of_mem_digits hdigit

theorem padded_ne_nil (width n : Nat) : padded width n ≠ [] := by
  simp [padded, padLeft, digits]

/-- A number that fits is written with exactly `width` digits. -/
theorem length_padded {width n : Nat} (hwidth : 0 < width) (h : n < 10 ^ width) :
    (padded width n).length = width := by
  have hdigits : (digits n).length ≤ width :=
    (Nat.length_toDigits_le_iff (by decide) hwidth).mpr h
  rw [padded, padLeft, List.length_append, List.length_replicate]
  omega

end Decimal

end TcpJournal
