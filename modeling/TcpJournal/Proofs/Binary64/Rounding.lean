import Mathlib.Algebra.Order.Field.Power
import Mathlib.Data.Int.Log
import Mathlib.Data.Rat.Floor
import Mathlib.Tactic.FieldSimp
import Mathlib.Tactic.Linarith
import Mathlib.Tactic.NormNum
import Mathlib.Tactic.Positivity
import Mathlib.Tactic.Ring
import TcpJournal.Binary64

/-!
# Exact values and rounding errors

A finite binary64 number stands for the rational number `Binary64.magnitude` of its
significand and exponent, with a sign.  Rounding goes to a multiple of the unit in
the last place at most half a unit away: a number below `2 ^ k` is rounded by no more
than `2 ^ (k - 54)`, and a whole number below `2 ^ 53` is not changed.

Text with a fixed number of decimals is rounded on the decimal grid.  A number
that lies within less than half a grid unit of a grid point is written as that
grid point.
-/

namespace TcpJournal

namespace Decimal

variable {num den : Nat}

/-- Twice the rounding error is at most the denominator. -/
theorem two_mul_roundedQuotient_mul_le (num : Nat) (hden : 0 < den) :
    2 * (roundedQuotient num den * den) ≤ 2 * num + den ∧
      2 * num ≤ 2 * (roundedQuotient num den * den) + den := by
  have hnum : num / den * den + num % den = num := Nat.div_add_mod' num den
  have hrest : num % den < den := Nat.mod_lt num hden
  have hsucc : (num / den + 1) * den = num / den * den + den := Nat.succ_mul _ _
  unfold roundedQuotient
  dsimp only
  split
  · omega
  · split
    · omega
    · rcases Nat.mod_two_eq_zero_or_one (num / den) with heven | hodd
      · rw [heven, Nat.add_zero]
        omega
      · rw [hodd]
        omega

/-- Rounding goes at most half a unit away. -/
theorem abs_roundedQuotient_sub_le (num : Nat) (hden : 0 < den) :
    |(roundedQuotient num den : ℚ) - num / den| ≤ 1 / 2 := by
  obtain ⟨hupper, hlower⟩ := two_mul_roundedQuotient_mul_le num hden
  have hpos : (0 : ℚ) < den := by exact_mod_cast hden
  have hupper' : 2 * ((roundedQuotient num den : ℚ) * den) ≤ 2 * num + den := by
    exact_mod_cast hupper
  have hlower' : 2 * (num : ℚ) ≤ 2 * (roundedQuotient num den * den) + den := by
    exact_mod_cast hlower
  have hdiff : (roundedQuotient num den : ℚ) - num / den =
      (roundedQuotient num den * den - num) / den := by
    field_simp
  rw [hdiff, abs_div, abs_of_pos hpos, div_le_iff₀ hpos, abs_le]
  constructor <;> linarith

/-- A quotient within less than half a unit of a whole number is rounded to it. -/
theorem roundedQuotient_eq {units : Nat} (hden : 0 < den)
    (h : |(units : ℚ) - num / den| < 1 / 2) : roundedQuotient num den = units := by
  have hrounded := abs_le.mp (abs_roundedQuotient_sub_le num hden)
  have hunits := abs_lt.mp h
  have hlower : (roundedQuotient num den : ℚ) < units + 1 := by linarith [hrounded.2, hunits.1]
  have hupper : (units : ℚ) < roundedQuotient num den + 1 := by linarith [hrounded.1, hunits.2]
  have hlower' : roundedQuotient num den < units + 1 := by exact_mod_cast hlower
  have hupper' : units < roundedQuotient num den + 1 := by exact_mod_cast hupper
  omega

end Decimal

namespace Binary64

/-- The rational number with a significand and an exponent. -/
def magnitude (significand : Nat) (exponent : Int) : ℚ :=
  significand * 2 ^ exponent

theorem cast_two_pow_toNat {k : Int} (hk : 0 ≤ k) : ((2 ^ k.toNat : Nat) : ℚ) = 2 ^ k := by
  rw [Nat.cast_pow, Nat.cast_ofNat, ← zpow_natCast, Int.toNat_of_nonneg hk]

theorem ratio_fst_pos {significand : Nat} (h : 0 < significand) (exponent : Int) :
    0 < (ratio significand exponent).1 := by
  unfold ratio
  split
  · exact Nat.mul_pos h (Nat.two_pow_pos _)
  · exact h

theorem ratio_snd_pos (significand : Nat) (exponent : Int) : 0 < (ratio significand exponent).2 := by
  unfold ratio
  split
  · exact Nat.one_pos
  · exact Nat.two_pow_pos _

theorem div_ratio (significand : Nat) (exponent : Int) :
    ((ratio significand exponent).1 : ℚ) / (ratio significand exponent).2 =
      magnitude significand exponent := by
  unfold ratio magnitude
  split
  · next h => rw [Nat.cast_mul, cast_two_pow_toNat h, Nat.cast_one, div_one]
  · next h => rw [cast_two_pow_toNat (by omega), zpow_neg, div_inv_eq_mul]

section

variable {num den : Nat}

theorem inUnits_snd_pos (num : Nat) (hden : 0 < den) (exponent : Int) :
    0 < (inUnits num den exponent).2 := by
  unfold inUnits
  split
  · exact Nat.mul_pos hden (Nat.two_pow_pos _)
  · exact hden

theorem div_inUnits (num den : Nat) (exponent : Int) :
    ((inUnits num den exponent).1 : ℚ) / (inUnits num den exponent).2 = num / den / 2 ^ exponent := by
  unfold inUnits
  split
  · next h => rw [Nat.cast_mul, cast_two_pow_toNat h, div_div]
  · next h => rw [Nat.cast_mul, cast_two_pow_toNat (by omega), zpow_neg]; ring

/-- The test of `floorLog2`: that many doublings of the denominator fit. -/
theorem two_zpow_le_div_iff (num : Nat) (hden : 0 < den) (k : Int) :
    (2 : ℚ) ^ k ≤ num / den ↔
      if 0 ≤ k then den * 2 ^ k.toNat ≤ num else den ≤ num * 2 ^ (-k).toNat := by
  have hpos : (0 : ℚ) < den := by exact_mod_cast hden
  rw [le_div_iff₀ hpos]
  split
  · next h => rw [← @Nat.cast_le ℚ, Nat.cast_mul, cast_two_pow_toNat h, mul_comm]
  · next h =>
    rw [← @Nat.cast_le ℚ, Nat.cast_mul, cast_two_pow_toNat (by omega), zpow_neg,
      ← div_eq_mul_inv, le_div_iff₀ (by positivity), mul_comm]

/-- The logarithms of numerator and denominator give that of the quotient up to
one. -/
theorem div_bounds_log2 (hnum : 0 < num) (hden : 0 < den) :
    (2 : ℚ) ^ ((num.log2 : Int) - den.log2 - 1) ≤ num / den ∧
      (num : ℚ) / den < 2 ^ ((num.log2 : Int) - den.log2 + 1) := by
  have hpos : (0 : ℚ) < den := by exact_mod_cast hden
  have hnumLower : (2 : ℚ) ^ (num.log2 : Int) ≤ num := by
    exact_mod_cast Nat.log2_self_le hnum.ne'
  have hnumUpper : (num : ℚ) < 2 ^ ((num.log2 : Int) + 1) := by
    exact_mod_cast (Nat.lt_log2_self : num < 2 ^ (num.log2 + 1))
  have hdenLower : (2 : ℚ) ^ (den.log2 : Int) ≤ den := by
    exact_mod_cast Nat.log2_self_le hden.ne'
  have hdenUpper : (den : ℚ) < 2 ^ ((den.log2 : Int) + 1) := by
    exact_mod_cast (Nat.lt_log2_self : den < 2 ^ (den.log2 + 1))
  constructor
  · rw [le_div_iff₀ hpos]
    calc (2 : ℚ) ^ ((num.log2 : Int) - den.log2 - 1) * den
        ≤ 2 ^ ((num.log2 : Int) - den.log2 - 1) * 2 ^ ((den.log2 : Int) + 1) := by gcongr
      _ = 2 ^ (num.log2 : Int) := by rw [← zpow_add₀ two_ne_zero]; congr 1; ring
      _ ≤ num := hnumLower
  · rw [div_lt_iff₀ hpos]
    calc (num : ℚ) < 2 ^ ((num.log2 : Int) + 1) := hnumUpper
      _ = 2 ^ ((num.log2 : Int) - den.log2 + 1) * 2 ^ (den.log2 : Int) := by
        rw [← zpow_add₀ two_ne_zero]; congr 1; ring
      _ ≤ 2 ^ ((num.log2 : Int) - den.log2 + 1) * den := by gcongr

theorem floorLog2_eq_log (hnum : 0 < num) (hden : 0 < den) :
    floorLog2 num den = Int.log 2 ((num : ℚ) / den) := by
  have hdiv : (0 : ℚ) < num / den := by positivity
  obtain ⟨hlower, hupper⟩ := div_bounds_log2 hnum hden
  rw [← Nat.cast_ofNat (R := ℚ) (n := 2)] at hlower hupper
  have hlowerLog := (Int.zpow_le_iff_le_log one_lt_two hdiv).mp hlower
  have hupperLog := (Int.lt_zpow_iff_log_lt one_lt_two hdiv).mp hupper
  have hreached := Int.zpow_le_iff_le_log one_lt_two hdiv (x := (num.log2 : Int) - den.log2)
  rw [Nat.cast_ofNat] at hreached
  simp only [floorLog2, ← two_zpow_le_div_iff num hden, hreached]
  split <;> omega

/-- A number below a power of two has a smaller logarithm. -/
theorem floorLog2_lt (hnum : 0 < num) (hden : 0 < den) {k : Int} (h : (num : ℚ) / den < 2 ^ k) :
    floorLog2 num den < k := by
  have hdiv : (0 : ℚ) < num / den := by positivity
  rw [floorLog2_eq_log hnum hden]
  exact (Int.lt_zpow_iff_log_lt one_lt_two hdiv).mp (by exact_mod_cast h)

/-- The exponent of the unit in the last place of a rounded number. -/
def lastPlace (num den : Nat) : Int :=
  max minExponent (floorLog2 num den - 52)

/-- A quotient in whole units in the last place. -/
def roundedUnits (num den : Nat) : Nat :=
  Decimal.roundedQuotient (inUnits num den (lastPlace num den)).1
    (inUnits num den (lastPlace num den)).2

theorem abs_roundedUnits_sub_le (num : Nat) (hden : 0 < den) :
    |(roundedUnits num den : ℚ) - num / den / 2 ^ lastPlace num den| ≤ 1 / 2 := by
  rw [← div_inUnits]
  exact Decimal.abs_roundedQuotient_sub_le _ (inUnits_snd_pos num hden _)

theorem roundedUnits_eq {units : Nat} (hden : 0 < den)
    (h : (units : ℚ) = num / den / 2 ^ lastPlace num den) : roundedUnits num den = units := by
  refine Decimal.roundedQuotient_eq (inUnits_snd_pos num hden _) ?_
  rw [div_inUnits, h, sub_self, abs_zero]
  norm_num

/-- A finite number with a sign, whose magnitude is at most `error` away from a
value. -/
def IsNear (negative : Bool) (value error : ℚ) : Binary64 → Prop
  | finite s significand exponent => s = negative ∧ |magnitude significand exponent - value| ≤ error
  | infinite _ | nan => False

/-- A carry to the next power of two moves the exponent and keeps the value. -/
theorem magnitude_carry (exponent : Int) :
    magnitude (2 ^ 52) (exponent + 1) = magnitude (2 ^ 53) exponent := by
  unfold magnitude
  rw [zpow_add_one₀ two_ne_zero]
  push_cast
  ring

theorem abs_magnitude_sub (significand : Nat) (exponent : Int) (value : ℚ) :
    |magnitude significand exponent - value| =
      |(significand : ℚ) - value / 2 ^ exponent| * 2 ^ exponent := by
  have hpos : (0 : ℚ) < 2 ^ exponent := by positivity
  rw [← abs_of_pos hpos, ← abs_mul, abs_of_pos hpos, sub_mul, div_mul_cancel₀ _ hpos.ne', magnitude]

/-- The significand counts units in the last place. -/
theorem isNear_nearest (negative : Bool) (hnum : 0 < num) (hlast : lastPlace num den < maxExponent)
    {value error : ℚ}
    (h : |magnitude (roundedUnits num den) (lastPlace num den) - value| ≤ error) :
    IsNear negative value error (nearest negative num den) := by
  unfold nearest
  rw [if_neg hnum.ne', ← lastPlace]
  dsimp only
  rw [← roundedUnits]
  split
  · next hcarry =>
    rw [hcarry, ← magnitude_carry] at h
    rw [if_neg (by omega)]
    exact ⟨rfl, h⟩
  · rw [if_neg (by omega)]
    exact ⟨rfl, h⟩

theorem isNear_nearest_zero (negative : Bool) (den : Nat) {error : ℚ} (h : 0 ≤ error) :
    IsNear negative 0 error (nearest negative 0 den) := by
  refine ⟨rfl, ?_⟩
  rw [magnitude, Nat.cast_zero, zero_mul, sub_zero, abs_zero]
  exact h

/-- A number below `2 ^ k` is rounded by at most `2 ^ (k - 54)`. -/
theorem isNear_nearest_div (negative : Bool) (hden : 0 < den) {k : Int} (hlow : -1021 ≤ k)
    (hhigh : k ≤ 1023) (h : (num : ℚ) / den < 2 ^ k) :
    IsNear negative (num / den) (2 ^ (k - 54)) (nearest negative num den) := by
  rcases Nat.eq_zero_or_pos num with rfl | hnum
  · rw [Nat.cast_zero, zero_div]
    exact isNear_nearest_zero negative den (by positivity)
  have hplace : lastPlace num den ≤ k - 53 := by
    have hlog := floorLog2_lt hnum hden h
    rw [lastPlace, minExponent]
    omega
  refine isNear_nearest negative hnum (by rw [maxExponent]; omega) ?_
  have hround := abs_roundedUnits_sub_le num hden
  rw [abs_magnitude_sub]
  calc |(roundedUnits num den : ℚ) - num / den / 2 ^ lastPlace num den| * 2 ^ lastPlace num den
      ≤ 1 / 2 * 2 ^ (k - 53) := by gcongr; norm_num
    _ = 2 ^ (k - 54) := by
      rw [show k - 53 = k - 54 + 1 by ring, zpow_add_one₀ two_ne_zero]
      ring

/-- A whole number of at most 53 bits is not rounded. -/
theorem isNear_nearest_one (negative : Bool) {n : Nat} (hn : n < 2 ^ 53) :
    IsNear negative n 0 (nearest negative n 1) := by
  rcases Nat.eq_zero_or_pos n with rfl | hpos
  · exact isNear_nearest_zero negative 1 le_rfl
  have hplace : lastPlace n 1 ≤ 0 := by
    have hlog : floorLog2 n 1 < 53 := by
      refine floorLog2_lt hpos Nat.one_pos ?_
      rw [Nat.cast_one, div_one]
      exact_mod_cast hn
    rw [lastPlace, minExponent]
    omega
  refine isNear_nearest negative hpos (by rw [maxExponent]; omega) ?_
  -- The unit in the last place divides one.
  have hunits : ((n * 2 ^ (-lastPlace n 1).toNat : Nat) : ℚ) =
      (n : ℚ) / (1 : Nat) / 2 ^ lastPlace n 1 := by
    rw [Nat.cast_mul, cast_two_pow_toNat (by omega), zpow_neg, Nat.cast_one, div_one,
      div_eq_mul_inv]
  rw [abs_magnitude_sub, roundedUnits_eq Nat.one_pos hunits, hunits, Nat.cast_one, div_one,
    sub_self, abs_zero, zero_mul]

end

/-- Whole numbers of at most 53 bits are exact. -/
theorem isNear_ofInt {i : Int} (h : i.natAbs < 2 ^ 53) :
    IsNear (decide (i < 0)) i.natAbs 0 (ofInt i) :=
  isNear_nearest_one _ h

/-- The quotient of two exact numbers is rounded once. -/
theorem isNear_div {x y : Binary64} {s t : Bool} {a b : ℚ} (hx : IsNear s a 0 x)
    (hy : IsNear t b 0 y) (hb : 0 < b) {k : Int} (hlow : -1021 ≤ k) (hhigh : k ≤ 1023)
    (h : a / b < 2 ^ k) : IsNear (s != t) (a / b) (2 ^ (k - 54)) (x.div y) := by
  cases x with
  | infinite | nan => exact hx.elim
  | finite s' m e =>
    cases y with
    | infinite | nan => exact hy.elim
    | finite t' m' e' =>
      obtain ⟨rfl, ha⟩ := hx
      obtain ⟨rfl, hb'⟩ := hy
      have ha : magnitude m e = a := sub_eq_zero.mp (abs_nonpos_iff.mp ha)
      have hb' : magnitude m' e' = b := sub_eq_zero.mp (abs_nonpos_iff.mp hb')
      have hm' : m' ≠ 0 := by
        rintro rfl
        rw [magnitude, Nat.cast_zero, zero_mul] at hb'
        exact hb.ne hb'
      have hquotient : (((ratio m e).1 * (ratio m' e').2 : Nat) : ℚ) /
          ((ratio m e).2 * (ratio m' e').1 : Nat) = a / b := by
        rw [← ha, ← hb', ← div_ratio, ← div_ratio, div_div_div_eq, Nat.cast_mul, Nat.cast_mul]
      have hden : 0 < (ratio m e).2 * (ratio m' e').1 :=
        Nat.mul_pos (ratio_snd_pos m e) (ratio_fst_pos (Nat.pos_of_ne_zero hm') e')
      rw [div, if_neg hm', ← hquotient]
      exact isNear_nearest_div _ hden hlow hhigh (hquotient ▸ h)

/-- A number within less than half a unit of `10 ^ -places` of a whole number of
units is written as that number of units. -/
theorem fixed_eq_of_isNear {x : Binary64} {negative : Bool} {places units : Nat} {error : ℚ}
    (hx : IsNear negative (units / 10 ^ places) error x) (herror : error * 10 ^ places < 1 / 2) :
    x.fixed places = signed negative (Decimal.fixed places units) := by
  cases x with
  | infinite | nan => exact hx.elim
  | finite s m e =>
    obtain ⟨rfl, hnear⟩ := hx
    have hround : Decimal.roundedQuotient ((ratio m e).1 * 10 ^ places) (ratio m e).2 = units := by
      refine Decimal.roundedQuotient_eq (ratio_snd_pos m e) ?_
      have hscale : (units : ℚ) - ((ratio m e).1 * 10 ^ places : Nat) / (ratio m e).2 =
          -((magnitude m e - units / 10 ^ places) * 10 ^ places) := by
        rw [← div_ratio, Nat.cast_mul, Nat.cast_pow, Nat.cast_ofNat]
        field_simp
        ring
      rw [hscale, abs_neg, abs_mul, abs_of_pos (show (0 : ℚ) < 10 ^ places by positivity)]
      exact lt_of_le_of_lt (by gcongr) herror
    rw [fixed]
    dsimp only
    rw [hround]

end Binary64

end TcpJournal
