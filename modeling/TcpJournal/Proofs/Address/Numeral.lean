import Mathlib.Data.List.TakeWhile
import Mathlib.Tactic.IntervalCases
import TcpJournal.Address
import TcpJournal.Proofs.Decimal.Reading
import TcpJournal.Proofs.Text.Runs

/-!
# Numbers in addresses read back

The parts of an address are numbers in base 10 or 16.  The digits of a number are read as
this number where no digit of the base follows (`Address.readNumber?_toDigits`); without a
digit in front nothing is read.
-/

namespace TcpJournal

namespace Address

/-- The value of a character as a digit of a base. -/
def digitOf? (base : Nat) (c : Char) : Option Nat :=
  (Text.hexValue? c).filter (· < base)

/-- A character is a digit of a base. -/
def isDigitOf (base : Nat) (c : Char) : Bool :=
  (digitOf? base c).isSome

theorem readNumber?_eq (base : Nat) (maxDigits : Option Nat) (leadingZero : Bool) (bound : Nat)
    (text : List Char) :
    readNumber? base maxDigits leadingZero bound text =
      let run := text.takeWhile (isDigitOf base)
      let value := run.foldl (fun n c => base * n + (digitOf? base c).getD 0) 0
      if run = [] then none
      else if (maxDigits.any fun limit => limit < run.length) then none
      else if !leadingZero && run.head? = some '0' && 1 < run.length then none
      else if bound < value then none
      else some (value, text.drop run.length) :=
  rfl

theorem hexValue?_digitChar {d : Nat} (h : d < 16) : Text.hexValue? (Nat.digitChar d) = some d := by
  interval_cases d <;> decide

section

variable {base : Nat} (hmin : 1 < base) (hmax : base ≤ 16)

include hmax

theorem digitOf?_digitChar {d : Nat} (h : d < base) : digitOf? base (Nat.digitChar d) = some d := by
  rw [digitOf?, hexValue?_digitChar (Nat.lt_of_lt_of_le h hmax)]
  simp [h]

include hmin

/-- The digits of a number are digits of the base. -/
theorem isDigitOf_of_mem_toDigits {n : Nat} {c : Char} (h : c ∈ Nat.toDigits base n) :
    isDigitOf base c = true := by
  have hdigit {d : Nat} (hd : d < base) : isDigitOf base (Nat.digitChar d) = true := by
    rw [isDigitOf, digitOf?_digitChar hmax hd, Option.isSome_some]
  induction n using Decimal.digits_induction hmin with
  | digit d hd =>
    rw [Nat.toDigits_of_lt_base hd] at h
    exact List.mem_singleton.mp h ▸ hdigit hd
  | concat n d hn hd ih =>
    rw [Decimal.toDigits_concat hmin hn hd] at h
    rcases List.mem_append.mp h with hmem | hmem
    · exact ih hmem
    · exact List.mem_singleton.mp hmem ▸ hdigit hd

theorem foldl_toDigits (n : Nat) :
    (Nat.toDigits base n).foldl (fun n c => base * n + (digitOf? base c).getD 0) 0 = n := by
  induction n using Decimal.digits_induction hmin with
  | digit d hd => simp [Nat.toDigits_of_lt_base hd, digitOf?_digitChar hmax hd]
  | concat n d hn hd ih =>
    rw [Decimal.toDigits_concat hmin hn hd, List.foldl_append, ih]
    simp [digitOf?_digitChar hmax hd]

/-- The digits of a number are read as the number. -/
theorem readNumber?_toDigits {n bound : Nat} {maxDigits : Option Nat} {rest : List Char}
    (leadingZero : Bool) (hn : n ≤ bound)
    (hdigits : ∀ limit ∈ maxDigits, (Nat.toDigits base n).length ≤ limit)
    (hrest : Stops (isDigitOf base) rest) :
    readNumber? base maxDigits leadingZero bound (Nat.toDigits base n ++ rest) =
      some (n, rest) := by
  have hrun : (Nat.toDigits base n ++ rest).takeWhile (isDigitOf base) = Nat.toDigits base n :=
    takeWhile_append (fun _ => isDigitOf_of_mem_toDigits hmin hmax) hrest
  have hzero : ¬((Nat.toDigits base n).head? = some '0' ∧ 1 < (Nat.toDigits base n).length) := by
    rintro ⟨hhead, hlength⟩
    rw [Decimal.eq_zero_of_head?_toDigits hmin hhead, Nat.toDigits_zero] at hlength
    exact absurd hlength (by decide)
  have hfits : ¬(maxDigits.any fun limit => limit < (Nat.toDigits base n).length) = true := by
    cases maxDigits with
    | none => simp
    | some limit => simpa using hdigits limit rfl
  rw [readNumber?_eq]
  dsimp only
  rw [hrun, foldl_toDigits hmin hmax, if_neg Nat.toDigits_ne_nil, if_neg hfits,
    if_neg (by simpa using fun _ => not_and.mp hzero), if_neg (Nat.not_lt.mpr hn), List.drop_left]

/-- A number that has no more digits than are allowed is read. -/
theorem readNumber?_limited {n bound count : Nat} {rest : List Char} (leadingZero : Bool)
    (hn : n ≤ bound) (hcount : 0 < count) (hfits : n < base ^ count)
    (hrest : Stops (isDigitOf base) rest) :
    readNumber? base (some count) leadingZero bound (Nat.toDigits base n ++ rest) =
      some (n, rest) := by
  refine readNumber?_toDigits hmin hmax leadingZero hn (fun limit hlimit => ?_) hrest
  obtain rfl : count = limit := Option.some.inj hlimit
  exact (Nat.length_toDigits_le_iff hmin hcount).mpr hfits

end

/-- Without a digit there is no number. -/
theorem readNumber?_of_stops {base bound : Nat} {maxDigits : Option Nat} {leadingZero : Bool}
    {text : List Char} (h : Stops (isDigitOf base) text) :
    readNumber? base maxDigits leadingZero bound text = none := by
  rw [readNumber?_eq]
  exact if_pos h.takeWhile

/-- A number that is read is a run of digits in front of the rest. -/
theorem exists_run_of_readNumber? {base bound n : Nat} {maxDigits : Option Nat}
    {leadingZero : Bool} {text rest : List Char}
    (h : readNumber? base maxDigits leadingZero bound text = some (n, rest)) :
    ∃ run, text = run ++ rest ∧ ∀ c ∈ run, isDigitOf base c = true := by
  rw [readNumber?_eq] at h
  dsimp only at h
  split_ifs at h
  cases h
  exact ⟨text.takeWhile (isDigitOf base),
    (List.prefix_iff_eq_append.mp (List.takeWhile_prefix _)).symm,
    fun c hc => List.mem_takeWhile_imp hc⟩

end Address

end TcpJournal
