import TcpJournal.Field.Span
import TcpJournal.Proofs.Bytes.Newlines

/-!
# Texts on one line

Numbers of any base, addresses and durations are written on one line: no digit, no
sign, no separator and no name among them is a newline.
-/

namespace TcpJournal

namespace Decimal

/-- No digit of any base is a newline. -/
theorem newline_notMem_toDigits {base : Nat} (h : 1 < base) (n : Nat) :
    '\n' ∉ Nat.toDigits base n := by
  have hdigit : ∀ d, '\n' ≠ Nat.digitChar d := fun d => (Nat.digitChar_ne '\n' rfl).symm
  induction n using Nat.strongRecOn with
  | ind n ih =>
    rw [Nat.toDigits_eq_if h]
    split
    · exact fun hmem => hdigit n (List.mem_singleton.mp hmem)
    · next hbase =>
      have hless : n / base < n := Nat.div_lt_self (by omega) h
      rw [List.mem_append, List.mem_singleton, not_or]
      exact ⟨ih _ hless, hdigit _⟩

theorem newline_notMem_digits (n : Nat) : '\n' ∉ digits n :=
  newline_notMem_toDigits (by decide) n

theorem newline_notMem_padLeft {fill : Char} {width : Nat} {text : List Char}
    (hfill : fill ≠ '\n') (h : '\n' ∉ text) : '\n' ∉ padLeft fill width text := by
  rw [padLeft, List.mem_append, not_or]
  exact ⟨fun hmem => hfill (List.eq_of_mem_replicate hmem).symm, h⟩

theorem newline_notMem_padded (width n : Nat) : '\n' ∉ padded width n :=
  newline_notMem_padLeft (by decide) (newline_notMem_digits n)

theorem newline_notMem_fixed (places units : Nat) : '\n' ∉ fixed places units := by
  have hwhole := newline_notMem_digits (units / 10 ^ places)
  have hrest := newline_notMem_padded places (units % 10 ^ places)
  simp [fixed, hwhole, hrest]

end Decimal

/-- Numbers with decimals are written on one line, and so are infinities. -/
theorem Binary64.newline_notMem_fixed (places : Nat) (x : Binary64) :
    '\n' ∉ x.fixed places := by
  have hsigned : ∀ (negative : Bool) {text : List Char}, '\n' ∉ text →
      '\n' ∉ signed negative text := by
    intro negative text h
    cases negative with
    | false => exact h
    | true => simpa [signed] using h
  cases x with
  | finite negative significand exponent =>
    exact hsigned negative (Decimal.newline_notMem_fixed places _)
  | infinite negative => exact hsigned negative (by decide)
  | nan => exact show '\n' ∉ "NaN".toList by decide

namespace Address

theorem newline_notMem_dotted (value : BitVec 32) : '\n' ∉ dotted value := by
  refine notMem_intercalate (by decide) fun part hpart => ?_
  obtain ⟨octet, -, rfl⟩ := List.mem_map.mp hpart
  exact Decimal.newline_notMem_digits octet

theorem newline_notMem_colonGroups (groups : List Nat) : '\n' ∉ colonGroups groups := by
  refine notMem_intercalate (by decide) fun part hpart => ?_
  obtain ⟨group, -, rfl⟩ := List.mem_map.mp hpart
  exact Decimal.newline_notMem_toDigits (by decide) group

/-- Addresses are written on one line. -/
theorem newline_notMem_text (a : Address) : '\n' ∉ a.text := by
  cases a with
  | v4 value => exact newline_notMem_dotted value
  | v6 value =>
    unfold text
    dsimp only
    split
    · rw [List.mem_append, not_or]
      exact ⟨by decide, newline_notMem_dotted _⟩
    · split
      · exact newline_notMem_colonGroups _
      · rw [List.mem_append, List.mem_append, not_or, not_or]
        exact ⟨⟨newline_notMem_colonGroups _, by decide⟩, newline_notMem_colonGroups _⟩

end Address

/-- Durations are written on one line, and so is what stands for a missing one. -/
theorem Span.newline_notMem_text (span : Span) (a : Anchors) (written : Instant) :
    '\n' ∉ span.text a written := by
  have hduration : ∀ duration, '\n' ∉ Instant.durationText duration :=
    Binary64.newline_notMem_fixed 6
  unfold text
  split
  · exact hduration _
  · cases span with
    | idleBefore | idleAfter | lingering => decide
    | requestPhase | latency | firstAnswer | responsePhase | handshake => exact hduration _

end TcpJournal
