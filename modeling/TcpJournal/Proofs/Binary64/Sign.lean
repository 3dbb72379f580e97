import TcpJournal.Binary64

/-!
# Signs of binary64 numbers

Rounding keeps the sign: `Binary64.nearest` puts the sign it is given on every
result, a zero and an infinity included.  So a whole number and its quotient by
a positive number are written with a minus sign exactly if the whole number is
negative.
-/

namespace TcpJournal

namespace Decimal

theorem head?_fixed_ne (places units : Nat) : (fixed places units).head? ≠ some '-' := by
  intro h
  cases hdigits : digits (units / 10 ^ places) with
  | nil =>
    rw [fixed, hdigits] at h
    exact absurd (Option.some.inj h) (by decide)
  | cons c rest =>
    rw [fixed, hdigits] at h
    have hdigit : c.isDigit = true :=
      isDigit_of_mem_digits (hdigits ▸ List.mem_cons_self)
    rw [Option.some.inj h] at hdigit
    exact absurd hdigit (by decide)

end Decimal

namespace Binary64

/-- A number with a minus sign, which a zero may have too. -/
def isNegative : Binary64 → Bool
  | finite negative _ _ => negative
  | infinite negative => negative
  | nan => false

@[simp]
theorem isNegative_nearest (negative : Bool) (num den : Nat) :
    (nearest negative num den).isNegative = negative := by
  unfold nearest
  split
  · rfl
  · dsimp only
    split <;> split <;> rfl

@[simp]
theorem isNegative_ofInt (i : Int) : (ofInt i).isNegative = decide (i < 0) :=
  isNegative_nearest ..

/-- Division by a positive number keeps the sign. -/
theorem isNegative_div_finite (x : Binary64) {significand : Nat} (h : significand ≠ 0)
    (exponent : Int) : (x.div (finite false significand exponent)).isNegative = x.isNegative := by
  cases x with
  | finite s m e =>
    rw [div, if_neg h]
    dsimp only
    rw [isNegative_nearest, Bool.bne_false]
    rfl
  | infinite s => simp [div, isNegative]
  | nan => rfl

/-- A minus sign in the text of a number is its sign. -/
theorem head?_fixed_eq_minus_iff {places : Nat} {x : Binary64} :
    (x.fixed places).head? = some '-' ↔ x.isNegative = true := by
  cases x with
  | finite negative significand exponent =>
    cases negative with
    | false => simp [fixed, signed, isNegative, Decimal.head?_fixed_ne]
    | true => simp [fixed, signed, isNegative]
  | infinite negative => cases negative <;> simp [fixed, signed, isNegative]
  | nan => simp [fixed, isNegative]

end Binary64

end TcpJournal
