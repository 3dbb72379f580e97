import TcpJournal.Instant.Rfc3339
import TcpJournal.Proofs.Calendar.Days
import TcpJournal.Proofs.Decimal.Reading
import TcpJournal.Proofs.Text.Runs
import TcpJournal.TimePattern.Render

/-!
# Instants read back from RFC 3339

An instant is written as a date, a time of day with as many decimals as it needs, and the
offset of UTC, either `Z` or `+00:00`.  Reading gives the instant back
(`Instant.parse?_rfc3339`), whatever its year is and also in a leap second.

Every part is written with a fixed number of digits, or with a character behind it that is
no digit, so each reader stops where its part ends.
-/

namespace TcpJournal

namespace TimeItem

theorem digitChar_eq {n : Nat} (h : n < 10) : digitChar n = Nat.digitChar n := by
  rw [← Char.toNat_inj, Nat.toNat_digitChar_of_lt_ten h]
  interval_cases n <;> rfl

theorem twoDigits_eq_padded {n : Nat} (h : n < 100) :
    twoDigits .zeros n = Decimal.padded 2 n := by
  have hones : digitChar (n % 10) = Nat.digitChar (n % 10) := digitChar_eq (by omega)
  have htens : digitChar (n / 10) = Nat.digitChar (n / 10) := digitChar_eq (by omega)
  rw [twoDigits, hones, htens, Decimal.padded, Decimal.padLeft, Decimal.digits,
    Nat.toDigits_eq_if (by decide)]
  split
  · next hzero =>
    have hsmall : n < 10 := by omega
    rw [if_pos hsmall, Nat.mod_eq_of_lt hsmall]
    rfl
  · next htwo =>
    rw [if_neg (by omega), Nat.toDigits_of_lt_base (by omega)]
    rfl

/-- A year of up to four digits, or a signed one. -/
theorem yearText_eq (year : Int) :
    yearText .zeros year =
      (if 0 ≤ year ∧ year ≤ 9999 then [] else explicitSign year) ++
        Decimal.padded 4 year.natAbs := by
  unfold yearText
  simp only [Bool.and_eq_true, decide_eq_true_eq]
  split
  · next h =>
    -- A year from 1000 on needs no zeros.
    have hlength : ¬(Decimal.digits year.natAbs).length ≤ 3 := by
      rw [Decimal.digits, Nat.length_toDigits_le_iff (by decide) (by decide)]
      omega
    have hzeros : 4 - (Decimal.digits year.natAbs).length = 0 := by omega
    rw [if_pos (by omega), Decimal.padded, Decimal.padLeft, hzeros]
    rfl
  · split
    · rfl
    · unfold explicitSign
      split <;> rfl

end TimeItem

namespace Instant

/-- The two ways to write the offset of UTC. -/
inductive UtcMark where
  | zulu
  | offset
  deriving DecidableEq, Repr

/-- The text of a mark. -/
def UtcMark.text : UtcMark → List Char
  | zulu => ['Z']
  | offset => TimeItem.offsetText .colon

/-- An instant as RFC 3339 writes it. -/
def rfc3339 (mark : UtcMark) (t : Instant) : List Char :=
  let time := CalendarTime.ofInstant t
  let two := TimeItem.twoDigits .zeros
  TimeItem.yearText .zeros time.date.year ++ '-' :: two time.date.month ++
    '-' :: two time.date.day ++ 'T' :: two time.hour ++ ':' :: two time.minute ++
    ':' :: two time.second ++ TimeItem.shortestFractionText time.nanosecond ++ mark.text

/-! ## The readers of the parts -/

section

variable {run : List Char} (hdigits : ∀ c ∈ run, Text.isDigit c = true) (hne : run ≠ [])

include hdigits hne

/-- All digits are read where no digit follows. -/
theorem readDigits?_append {rest : List Char} (h : Stops Text.isDigit rest) :
    readDigits? none (run ++ rest) = some (run, rest) := by
  simp only [readDigits?]
  rw [takeWhile_append hdigits h, if_neg hne, List.drop_left]

/-- As many digits as may be read are read, whatever follows. -/
theorem readDigits?_length (rest : List Char) :
    readDigits? (some run.length) (run ++ rest) = some (run, rest) := by
  simp only [readDigits?]
  rw [List.takeWhile_append_of_pos hdigits, List.take_left, if_neg hne, List.drop_left]

theorem trimStart_append (rest : List Char) : Text.trimStart (run ++ rest) = run ++ rest := by
  cases run with
  | nil => exact absurd rfl hne
  | cons c run =>
    exact Text.trimStart_cons (Text.isWhitespace_of_isDigit (hdigits c List.mem_cons_self)) _

end

theorem readTwo?_twoDigits {n greatest : Nat} (hn : n ≤ greatest) (hgreatest : greatest < 100)
    (rest : List Char) :
    readTwo? greatest (TimeItem.twoDigits .zeros n ++ rest) = some (n, rest) := by
  have hlength : (Decimal.padded 2 n).length = 2 := Decimal.length_padded (by decide) (by omega)
  have hread := readDigits?_length (fun _ => Decimal.isDigit_of_mem_padded)
    (Decimal.padded_ne_nil 2 n) rest
  rw [hlength] at hread
  rw [TimeItem.twoDigits_eq_padded (by omega), readTwo?,
    trimStart_append (fun _ => Decimal.isDigit_of_mem_padded) (Decimal.padded_ne_nil 2 n), hread]
  simp [Decimal.value_padded, hn]

theorem readSeparator?_cons {c : Char} (h : Text.isWhitespace c = false) (rest : List Char) :
    readSeparator? c (c :: rest) = some rest := by
  rw [readSeparator?, Text.trimStart_cons h, Text.expect?_eq_some_iff]

theorem readYear?_append {run : List Char} (hdigits : ∀ c ∈ run, Text.isDigit c = true)
    (hlength : run.length = 4) (rest : List Char) :
    readYear? (run ++ rest) = some ((Decimal.value run : Int), rest) := by
  have hne : run ≠ [] := List.length_pos_iff.mp (by omega)
  have hread := readDigits?_length hdigits hne rest
  rw [hlength] at hread
  have hhead : ∀ c later, run ++ rest = c :: later → Text.isDigit c = true := by
    intro c later h
    cases run with
    | nil => exact absurd rfl hne
    | cons d run =>
      cases h
      exact hdigits c List.mem_cons_self
  rw [readYear?, trimStart_append hdigits hne]
  -- A digit is no sign.
  split
  · next h => exact absurd (hhead _ _ h) (by decide)
  · next h => exact absurd (hhead _ _ h) (by decide)
  · simp [hread]

theorem readYear?_yearText (year : Int) {rest : List Char} (h : Stops Text.isDigit rest) :
    readYear? (TimeItem.yearText .zeros year ++ rest) = some (year, rest) := by
  have hread := readDigits?_append (fun _ => Decimal.isDigit_of_mem_padded)
    (Decimal.padded_ne_nil 4 year.natAbs) h
  rw [TimeItem.yearText_eq]
  split
  · next hyear =>
    have hlength : (Decimal.padded 4 year.natAbs).length = 4 :=
      Decimal.length_padded (by decide) (by omega)
    rw [List.nil_append, readYear?_append (fun _ => Decimal.isDigit_of_mem_padded) hlength,
      Decimal.value_padded, Int.natAbs_of_nonneg hyear.1]
  · next hyear =>
    unfold TimeItem.explicitSign
    split
    · next hnegative =>
      rw [List.append_assoc, List.singleton_append, readYear?, Text.trimStart_cons (by decide)]
      simp only [hread, Option.map_some, Decimal.value_padded, Option.some.injEq, Prod.mk.injEq,
        and_true]
      omega
    · rw [List.append_assoc, List.singleton_append, readYear?, Text.trimStart_cons (by decide)]
      simp only [hread, Option.map_some, Decimal.value_padded, Option.some.injEq, Prod.mk.injEq,
        and_true]
      omega

theorem readFraction?_shortestFractionText {nanos : Nat} (hnanos : nanos < nanosPerSecond)
    {rest : List Char} (h : Stops Text.isDigit rest) (hpoint : rest.head? ≠ some '.') :
    readFraction? (TimeItem.shortestFractionText nanos ++ rest) = some (nanos, rest) := by
  have hplaces : ∀ places, 0 < places → places ≤ 9 → nanos % 10 ^ (9 - places) = 0 →
      readFraction? (('.' :: TimeItem.fractionText places nanos) ++ rest) = some (nanos, rest) := by
    intro places hpos hle hmod
    have hdigits := readDigits?_append (fun _ => Decimal.isDigit_of_mem_padded)
      (Decimal.padded_ne_nil places (nanos / 10 ^ (9 - places))) h
    have hfits : nanos / 10 ^ (9 - places) < 10 ^ places := by
      rw [Nat.div_lt_iff_lt_mul (Nat.pow_pos (by decide)), ← Nat.pow_add,
        Nat.add_sub_cancel' hle]
      exact hnanos
    have hlength := Decimal.length_padded hpos hfits
    have hkept : (Decimal.padded places (nanos / 10 ^ (9 - places))).take 9 =
        Decimal.padded places (nanos / 10 ^ (9 - places)) :=
      List.take_of_length_le (hlength.trans_le hle)
    rw [List.cons_append, TimeItem.fractionText, readFraction?, hdigits]
    simp only [Option.map_some, hkept, hlength, Decimal.value_padded,
      Nat.div_mul_cancel (Nat.dvd_of_mod_eq_zero hmod)]
  unfold TimeItem.shortestFractionText
  split
  · next hzero =>
    rw [hzero, List.nil_append, readFraction?]
    rintro later rfl
    exact hpoint rfl
  · split
    · next hmillis => exact hplaces 3 (by decide) (by decide) hmillis
    · split
      · next hmicros => exact hplaces 6 (by decide) (by decide) hmicros
      · exact hplaces 9 (by decide) (by decide) (Nat.mod_one nanos)

theorem stops_text (mark : UtcMark) : Stops Text.isDigit mark.text := by
  cases mark <;> exact stops_cons.mpr (by decide)

theorem head?_text_ne (mark : UtcMark) : mark.text.head? ≠ some '.' := by
  cases mark <;> decide

theorem readOffset?_text (mark : UtcMark) :
    readOffset? (Text.trimStart mark.text) = some (0, []) := by
  cases mark <;> decide

/-! ## Instants -/

/-- Instants lie in the years that a local time may have. -/
theorem isLocalYear_date (t : Instant) : isLocalYear t.date.year = true := by
  obtain ⟨hbegun, hnext⟩ := Date.toDays_bounds (Date.exists?_ofDays t.day)
  have hrange := t.inRange
  have hday : t.day = t.seconds / 86400 := rfl
  have hfirst : Date.daysBeforeYear (-262143) = -96465292 := rfl
  have hlast : Date.daysBeforeYear 262143 = 95026237 := rfl
  rw [Date.toDays_ofDays] at hbegun hnext
  change Date.daysBeforeYear t.date.year ≤ t.day at hbegun
  change t.day < Date.daysBeforeYear (t.date.year + 1) at hnext
  simp only [isLocalYear, Bool.and_eq_true, decide_eq_true_eq]
  constructor
  · by_contra hearly
    have hless : t.date.year + 1 ≤ -262143 := by omega
    have hmono := Date.daysBeforeYear_mono hless
    omega
  · by_contra hlate
    have hless : 262143 ≤ t.date.year := by omega
    have hmono := Date.daysBeforeYear_mono hless
    omega

/-- The date and the time of day of an instant are those of the instant. -/
theorem ofLocal?_ofInstant (t : Instant) :
    let time := CalendarTime.ofInstant t
    ofLocal? time.date time.hour time.minute time.second time.nanosecond 0 = some t := by
  intro time
  have hexists : t.date.exists? = true := Date.exists?_ofDays t.day
  have hdays : t.date.toDays = t.day := Date.toDays_ofDays t.day
  have hyear : isLocalYear t.date.year = true := isLocalYear_date t
  have hhour : time.hour = t.secondOfDay / 3600 := rfl
  have hminute : time.minute = t.secondOfDay / 60 % 60 := rfl
  have hsecond : time.second = t.secondOfDay % 60 + t.nanos / nanosPerSecond := rfl
  have hnanos : time.nanosecond = t.nanos % nanosPerSecond := rfl
  have hdate : time.date = t.date := rfl
  have hdayOf : t.day = t.seconds / 86400 := rfl
  have hsecondOfDay : t.secondOfDay = (t.seconds % 86400).toNat := rfl
  have hseconds : t.date.toDays * 86400 +
      (time.hour * 3600 + time.minute * 60 + min time.second 59 : Nat) - 0 = t.seconds := by
    have hsubsecond := t.subsecond
    rw [nanosPerSecond] at hsecond hsubsecond
    omega
  have hall : time.nanosecond + (if time.second = 60 then nanosPerSecond else 0) = t.nanos := by
    have hsubsecond := t.subsecond
    rw [nanosPerSecond] at hsecond hsubsecond hnanos ⊢
    split <;> omega
  unfold ofLocal?
  dsimp only
  rw [hdate, hyear, hexists, Bool.and_self, if_pos rfl, hseconds, hall, make?,
    dif_pos ⟨t.inRange, t.subsecond⟩]

/-- The readings of a clock lie in their ranges; the second 60 is a leap second. -/
theorem timeOfDay_bounds (t : Instant) :
    let time := CalendarTime.ofInstant t
    time.hour ≤ 23 ∧ time.minute ≤ 59 ∧ time.second ≤ 60 ∧ time.nanosecond < nanosPerSecond := by
  intro time
  have hhour : time.hour = t.secondOfDay / 3600 := rfl
  have hminute : time.minute = t.secondOfDay / 60 % 60 := rfl
  have hsecond : time.second = t.secondOfDay % 60 + t.nanos / nanosPerSecond := rfl
  have hnanos : time.nanosecond = t.nanos % nanosPerSecond := rfl
  have hsecondOfDay : t.secondOfDay = (t.seconds % 86400).toNat := rfl
  have hsubsecond := t.subsecond
  rw [nanosPerSecond] at hsecond hnanos hsubsecond ⊢
  omega

/-- An instant is read back from the text that RFC 3339 writes for it. -/
theorem parse?_rfc3339 (mark : UtcMark) (t : Instant) : parse? (rfc3339 mark t) = some t := by
  have hlocal := ofLocal?_ofInstant t
  obtain ⟨hmonth, -, hday, -⟩ := Date.exists?_bounds (Date.exists?_ofDays t.day)
  obtain ⟨hhour, hminute, hsecond, hnanos⟩ := timeOfDay_bounds t
  change (CalendarTime.ofInstant t).date.month ≤ 12 at hmonth
  change (CalendarTime.ofInstant t).date.day ≤ 31 at hday
  unfold rfc3339
  dsimp only at hlocal hhour hminute hsecond hnanos ⊢
  generalize CalendarTime.ofInstant t = time at *
  have hfraction := readFraction?_shortestFractionText hnanos (stops_text mark) (head?_text_ne mark)
  have hdash := fun rest => readSeparator?_cons (c := '-') (by decide) rest
  have hcolon := fun rest => readSeparator?_cons (c := ':') (by decide) rest
  simp only [List.append_assoc, List.cons_append]
  refine Option.bind_eq_some_iff.mpr ⟨_, readYear?_yearText _ (stops_cons.mpr (by decide)), ?_⟩
  refine Option.bind_eq_some_iff.mpr ⟨_, hdash _, ?_⟩
  refine Option.bind_eq_some_iff.mpr ⟨_, readTwo?_twoDigits hmonth (by decide) _, ?_⟩
  refine Option.bind_eq_some_iff.mpr ⟨_, hdash _, ?_⟩
  refine Option.bind_eq_some_iff.mpr ⟨_, readTwo?_twoDigits hday (by decide) _, ?_⟩
  refine Option.bind_eq_some_iff.mpr ⟨_, rfl, ?_⟩
  refine Option.bind_eq_some_iff.mpr ⟨_, readTwo?_twoDigits hhour (by decide) _, ?_⟩
  refine Option.bind_eq_some_iff.mpr ⟨_, hcolon _, ?_⟩
  refine Option.bind_eq_some_iff.mpr ⟨_, readTwo?_twoDigits hminute (by decide) _, ?_⟩
  refine Option.bind_eq_some_iff.mpr ⟨_, hcolon _, ?_⟩
  refine Option.bind_eq_some_iff.mpr ⟨_, readTwo?_twoDigits hsecond (by decide) _, ?_⟩
  refine Option.bind_eq_some_iff.mpr ⟨_, hfraction, ?_⟩
  exact Option.bind_eq_some_iff.mpr ⟨_, readOffset?_text mark, hlocal⟩

/-- The leap second at the end of 2016. -/
example : rfc3339 .zulu ⟨1483228799, 1500000000, by decide, by decide⟩ =
    "2016-12-31T23:59:60.500Z".toList := by
  decide +kernel

end Instant

end TcpJournal
