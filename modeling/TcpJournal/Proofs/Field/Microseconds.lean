import TcpJournal.Field
import TcpJournal.Proofs.Binary64.Rounding
import TcpJournal.Proofs.Instant.Order

/-!
# Durations to the microsecond

A span is written through a binary64 number of seconds, which is a rounded quotient,
and rounded again to six decimals.  For durations below `2 ^ 33` seconds both
roundings together stay within less than half a microsecond, so the text is that of
the whole microseconds themselves (`Instant.microsText`).
-/

namespace TcpJournal

namespace Instant

/-- The nanoseconds since the epoch, where a leap second has no number of its own. -/
def nanosSinceEpoch (t : Instant) : Int :=
  t.seconds * 1000000000 + t.nanos

/-- The decimal digits of a number with leading zeros up to six. -/
def sixDigits (n : Nat) : List Char :=
  (Nat.toDigits 10 n).leftpad 6 '0'

theorem length_sixDigits {n : Nat} (h : n < 1000000) : (sixDigits n).length = 6 := by
  have hlength : (Nat.toDigits 10 n).length ≤ 6 :=
    (Nat.length_toDigits_le_iff (by decide) (by decide)).mpr h
  rw [sixDigits, List.length_leftpad]
  exact Nat.max_eq_left hlength

theorem isDigit_of_mem_sixDigits {n : Nat} {c : Char} (h : c ∈ sixDigits n) :
    c.isDigit = true := by
  rcases List.mem_append.mp h with hzero | hdigit
  · rw [List.eq_of_mem_replicate hzero]
    decide
  · exact Decimal.isDigit_of_mem_digits hdigit

theorem ofDigitChars_sixDigits (n : Nat) : Nat.ofDigitChars 10 (sixDigits n) 0 = n := by
  rw [sixDigits, List.leftpad, Nat.ofDigitChars_append, Nat.ofDigitChars_replicate_zero,
    Nat.mul_zero, Nat.ofDigitChars_ten_toDigits]

/-- A number of microseconds in seconds: whole seconds, a point and six digits,
behind a minus sign if the number is negative. -/
def microsText (micros : Int) : List Char :=
  (if micros < 0 then ['-'] else []) ++ Nat.toDigits 10 (micros.natAbs / 1000000) ++
    '.' :: sixDigits (micros.natAbs % 1000000)

theorem signed_fixed_eq_microsText (micros : Int) :
    Binary64.signed (decide (micros < 0)) (Decimal.fixed 6 micros.natAbs) =
      microsText micros := by
  unfold microsText Binary64.signed
  by_cases h : micros < 0
  · rw [if_pos h, decide_eq_true h]
    rfl
  · rw [if_neg h, decide_eq_false h]
    rfl

theorem head?_microsText_iff (micros : Int) :
    (microsText micros).head? = some '-' ↔ micros < 0 := by
  rw [← signed_fixed_eq_microsText]
  by_cases h : micros < 0
  · simp [Binary64.signed, h]
  · simp [Binary64.signed, h, Decimal.head?_fixed_ne]

/-- The digits, read without sign and point, are the number of microseconds. -/
theorem ofDigitChars_filter_microsText (micros : Int) :
    Nat.ofDigitChars 10 ((microsText micros).filter Char.isDigit) 0 = micros.natAbs := by
  have hsign : (if micros < 0 then ['-'] else []).filter Char.isDigit = [] := by
    split <;> rfl
  have hwhole : (Nat.toDigits 10 (micros.natAbs / 1000000)).filter Char.isDigit =
      Nat.toDigits 10 (micros.natAbs / 1000000) :=
    List.filter_eq_self.mpr fun c hc => Decimal.isDigit_of_mem_digits hc
  have hfraction : ('.' :: sixDigits (micros.natAbs % 1000000)).filter Char.isDigit =
      sixDigits (micros.natAbs % 1000000) := by
    rw [List.filter_cons_of_neg (by decide)]
    exact List.filter_eq_self.mpr fun c hc => isDigit_of_mem_sixDigits hc
  rw [microsText, List.filter_append, List.filter_append, hsign, hwhole, hfraction, List.nil_append,
    Nat.ofDigitChars_append, Nat.ofDigitChars_ten_toDigits, Nat.ofDigitChars_eq_ofDigitChars_zero,
    ofDigitChars_sixDigits, length_sixDigits (Nat.mod_lt _ (by decide))]
  exact Nat.div_add_mod micros.natAbs 1000000

/-- Zero is written without a sign. -/
theorem microsText_ne_minus_zero (micros : Int) : microsText micros ≠ "-0.000000".toList := by
  intro h
  have hnegative : micros < 0 := by
    rw [← head?_microsText_iff, h]
    rfl
  have hdigits := ofDigitChars_filter_microsText micros
  rw [h] at hdigits
  have hzero : micros.natAbs = 0 := hdigits.symm.trans (by decide)
  omega

/-- Seconds with six decimals are exact below `2 ^ 33` seconds. -/
theorem fixed_div_ofInt {micros : Int} (h : micros.natAbs < 2 ^ 33 * 1000000) :
    ((Binary64.ofInt micros).div (Binary64.ofInt 1000000)).fixed 6 = microsText micros := by
  have hmicros : Binary64.IsNear (decide (micros < 0)) micros.natAbs 0 (Binary64.ofInt micros) :=
    Binary64.isNear_ofInt (by omega)
  have hmillion : Binary64.IsNear false (10 ^ 6) 0 (Binary64.ofInt 1000000) := by
    have hexact := Binary64.isNear_ofInt (i := 1000000) (by decide)
    norm_num at hexact ⊢
    exact hexact
  have hlimit : (micros.natAbs : ℚ) / 10 ^ 6 < 2 ^ (33 : Int) := by
    rw [div_lt_iff₀ (by norm_num)]
    exact_mod_cast h
  have hquotient := Binary64.isNear_div hmicros hmillion (by norm_num) (by decide) (by decide) hlimit
  rw [Bool.bne_false] at hquotient
  rw [← signed_fixed_eq_microsText]
  exact Binary64.fixed_eq_of_isNear hquotient (by norm_num)

variable {start stop : Instant}

theorem nanosBetween_eq_sub (hstart : start.inLeapSecond = false)
    (hstop : stop.inLeapSecond = false) :
    nanosBetween start stop = stop.nanosSinceEpoch - start.nanosSinceEpoch := by
  rw [nanosBetween_eq hstart hstop, nanosPerSecond, nanosSinceEpoch, nanosSinceEpoch]
  omega

/-- Below `2 ^ 33` seconds a duration is written as its whole microseconds. -/
theorem durationText_elapsed (h : (nanosBetween start stop).natAbs < 2 ^ 33 * 1000000000) :
    durationText (elapsed start stop) = microsText ((nanosBetween start stop).tdiv 1000) := by
  have hmicros : ((nanosBetween start stop).tdiv 1000).natAbs < 2 ^ 33 * 1000000 := by
    have hcut : ((nanosBetween start stop).tdiv 1000).natAbs =
        (nanosBetween start stop).natAbs / 1000 := Int.natAbs_tdiv _ _
    omega
  have hword : fitsWord ((nanosBetween start stop).tdiv 1000) = true := by
    simp only [fitsWord, Bool.and_eq_true, decide_eq_true_eq]
    omega
  rw [durationText, elapsed, if_pos hword, fixed_div_ofInt hmicros]

/-- A clock reading with less than a second of microseconds is in no leap second. -/
theorem inLeapSecond_ofTimeval (seconds : Int) {micros : Nat} (h : micros < 1000000) :
    (ofTimeval seconds micros).inLeapSecond = false := by
  unfold ofTimeval make?
  split
  · have hnanos : min (micros * 1000) maxClockNanos < nanosPerSecond := by
      rw [nanosPerSecond]
      omega
    exact decide_eq_false (Nat.not_le.mpr hnanos)
  · rfl

end Instant

namespace Field

open Instant

/-- A span below `2 ^ 33` seconds outside leap seconds is written as its nanoseconds
cut toward zero to microseconds, with six digits behind the point.  The text has a
minus sign exactly if a microsecond or more is left behind zero. -/
theorem render_span_eq_microsText :
    (∀ (seconds : Int) (micros : Nat), micros < 1000000 →
      (ofTimeval seconds micros).inLeapSecond = false) ∧
    ∀ (span : Span) (anchors : Anchors) (written start stop : Instant),
      anchors.start = some start → span.stopAt anchors written = some stop →
      start.inLeapSecond = false → stop.inLeapSecond = false →
      (stop.nanosSinceEpoch - start.nanosSinceEpoch).natAbs < 2 ^ 33 * 1000000000 →
      let micros := (stop.nanosSinceEpoch - start.nanosSinceEpoch).tdiv 1000
      (Field.span span anchors).render written = some (Bytes.ofText (microsText micros)) ∧
        (sixDigits (micros.natAbs % 1000000)).length = 6 ∧
        ((microsText micros).head? = some '-' ↔ micros < 0) ∧
        microsText micros ≠ "-0.000000".toList := by
  refine ⟨fun seconds micros => inLeapSecond_ofTimeval seconds, ?_⟩
  intro span anchors written start stop hanchor hend hstart hstop hlimit micros
  rw [← nanosBetween_eq_sub hstart hstop] at hlimit
  have htext : span.text anchors written = microsText micros := by
    unfold Span.text
    rw [hanchor, hend]
    exact (durationText_elapsed hlimit).trans (by rw [nanosBetween_eq_sub hstart hstop])
  refine ⟨?_, length_sixDigits (Nat.mod_lt _ (by decide)), head?_microsText_iff micros,
    microsText_ne_minus_zero micros⟩
  rw [render, htext]

/-- The longest way back, a nanosecond short of `2 ^ 33` seconds. -/
theorem render_longest_span_back :
    let late : Instant := ⟨8589934591, 999999999, by decide, by decide⟩
    late.inLeapSecond = false ∧ (ofTimeval 0 0).inLeapSecond = false ∧
      ((ofTimeval 0 0).nanosSinceEpoch - late.nanosSinceEpoch).natAbs < 2 ^ 33 * 1000000000 ∧
      (Field.span .latency ⟨some late, some (ofTimeval 0 0)⟩).render .epoch =
        some (Bytes.ofText "-8589934591.999999".toList) := by
  intro late
  have hlate : late.inLeapSecond = false := by decide
  have hzero := render_span_eq_microsText.1 0 0 (by decide)
  have hlimit : ((ofTimeval 0 0).nanosSinceEpoch - late.nanosSinceEpoch).natAbs <
      2 ^ 33 * 1000000000 := by decide
  obtain ⟨htext, -, -, -⟩ :=
    render_span_eq_microsText.2 .latency ⟨some late, some (ofTimeval 0 0)⟩ .epoch late
      (ofTimeval 0 0) rfl rfl hlate hzero hlimit
  refine ⟨hlate, hzero, hlimit, htext.trans ?_⟩
  decide +kernel

end Field

end TcpJournal
