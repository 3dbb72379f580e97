import TcpJournal.Instant
import TcpJournal.Proofs.Binary64.Sign

/-!
# The order of instants and the sign of durations

Instants are ordered by second and then by nanosecond.  Outside leap seconds the
time from an instant to a later one is not negative.  A duration is cut to whole
microseconds toward zero before it is written, so it carries a minus sign
exactly if it goes back by a microsecond or more.
-/

namespace TcpJournal

namespace Instant

/-- The order of instants, by second and then by nanosecond. -/
instance : LE Instant where
  le a b := a.seconds < b.seconds ∨ a.seconds = b.seconds ∧ a.nanos ≤ b.nanos

theorem le_iff {a b : Instant} :
    a ≤ b ↔ a.seconds < b.seconds ∨ a.seconds = b.seconds ∧ a.nanos ≤ b.nanos :=
  Iff.rfl

instance (a b : Instant) : Decidable (a ≤ b) :=
  decidable_of_iff _ le_iff.symm

theorem le_refl (a : Instant) : a ≤ a :=
  .inr ⟨rfl, Nat.le_refl _⟩

/-- Without leap seconds the time between two instants is the difference of
their numbers. -/
theorem nanosBetween_eq {start stop : Instant} (hstart : start.inLeapSecond = false)
    (hstop : stop.inLeapSecond = false) :
    nanosBetween start stop =
      (stop.seconds - start.seconds) * nanosPerSecond + stop.nanos - start.nanos := by
  simp [nanosBetween, hstart, hstop]

theorem nanosBetween_neg {start stop : Instant} (hstart : start.inLeapSecond = false)
    (hstop : stop.inLeapSecond = false) :
    nanosBetween stop start = -nanosBetween start stop := by
  rw [nanosBetween_eq hstart hstop, nanosBetween_eq hstop hstart, nanosPerSecond]
  omega

/-- The time to a later instant is not negative. -/
theorem nanosBetween_nonneg {start stop : Instant} (hstart : start.inLeapSecond = false)
    (hstop : stop.inLeapSecond = false) (h : start ≤ stop) : 0 ≤ nanosBetween start stop := by
  have hnanos : start.nanos < nanosPerSecond := by
    simpa [inLeapSecond] using hstart
  rw [nanosBetween_eq hstart hstop]
  rw [nanosPerSecond] at hnanos ⊢
  rcases h with hlt | ⟨heq, hle⟩
  · omega
  · omega

/-- A quotient that is cut toward zero is negative from the first whole unit on. -/
theorem tdiv_neg_iff (n : Int) {d : Int} (hd : 0 < d) : n.tdiv d < 0 ↔ n ≤ -d := by
  rcases Int.le_total 0 n with hn | hn
  · have hnonneg := Int.tdiv_nonneg hn (Int.le_of_lt hd)
    omega
  · obtain ⟨m, rfl⟩ : ∃ m, n = -m := ⟨-n, by omega⟩
    rw [Int.neg_tdiv, Int.tdiv_eq_ediv_of_nonneg (by omega)]
    have hpos : 0 < m / d ↔ d ≤ m := by
      rw [← Int.add_one_le_iff, Int.zero_add, Int.le_ediv_iff_mul_le hd, Int.one_mul]
    omega

/-- A duration is negative if it goes back by a microsecond or more. -/
theorem isNegative_elapsed_iff {start stop : Instant} :
    (elapsed start stop).isNegative = true ↔ nanosBetween start stop ≤ -1000 := by
  have hmicros : Binary64.ofInt 1000000 = .finite false 8589934592000000 (-33) := by
    decide +kernel
  have hmillis : Binary64.ofInt 1000 = .finite false 8796093022208000 (-43) := by
    decide +kernel
  unfold elapsed
  dsimp only
  split
  · rw [hmicros, Binary64.isNegative_div_finite _ (by decide), Binary64.isNegative_ofInt,
      decide_eq_true_iff, tdiv_neg_iff _ (by decide)]
  · next hword =>
    rw [hmillis, Binary64.isNegative_div_finite _ (by decide), Binary64.isNegative_ofInt,
      decide_eq_true_iff, tdiv_neg_iff _ (by decide)]
    -- So many nanoseconds that microseconds do not fit are no few milliseconds.
    have hmany := Int.mul_tdiv_add_tmod (nanosBetween start stop) 1000
    have hlow := Int.lt_tmod_of_pos (nanosBetween start stop) (b := 1000) (by decide)
    have hhigh := Int.tmod_lt_of_pos (nanosBetween start stop) (b := 1000) (by decide)
    simp only [fitsWord, Bool.and_eq_true, decide_eq_true_eq, not_and] at hword
    omega

/-- A duration is written with a minus sign if it is negative. -/
theorem head?_durationText_iff {duration : Binary64} :
    (durationText duration).head? = some '-' ↔ duration.isNegative = true :=
  Binary64.head?_fixed_eq_minus_iff

end Instant

end TcpJournal
