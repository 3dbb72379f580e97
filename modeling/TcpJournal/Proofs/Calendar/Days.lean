import Mathlib.Tactic.IntervalCases
import Mathlib.Tactic.Ring
import TcpJournal.Calendar

/-!
# Days and their dates

The date of a day exists, and counting its days gives the day back (`Date.toDays_ofDays`).

In a year that starts in March the leap day comes last, so each month begins a fixed number
of days behind 1 March (`Date.daysBeforeMonth_march`).  A day is split into such a year and
a day in it (`Date.exists_ofDays_eq`), and the date made of these two is counted back
(`Date.toDays_ofMarch`).
-/

namespace TcpJournal

namespace Date

/-- The days that 29 February adds to a year. -/
def leapDays (year : Int) : Nat :=
  if isLeapYear year then 1 else 0

theorem leapDays_le_one (year : Int) : leapDays year ≤ 1 := by
  rw [leapDays]
  split <;> decide

theorem leapDays_eq (year : Int) :
    (leapDays year : Int) = year / 4 - (year - 1) / 4 - (year / 100 - (year - 1) / 100) +
      (year / 400 - (year - 1) / 400) := by
  simp only [leapDays, isLeapYear, Bool.and_eq_true, Bool.or_eq_true, beq_iff_eq, bne_iff_ne]
  split <;> omega

theorem daysBeforeYear_succ (year : Int) :
    daysBeforeYear (year + 1) = daysBeforeYear year + 365 + leapDays year := by
  rw [leapDays_eq, daysBeforeYear, daysBeforeYear]
  omega

theorem daysBeforeYear_mono {year later : Int} (h : year ≤ later) :
    daysBeforeYear year ≤ daysBeforeYear later := by
  obtain rfl | hlt := Int.le_iff_eq_or_lt.mp h
  · rfl
  · rw [daysBeforeYear, daysBeforeYear]
    omega

/-! ## Months -/

/-- The days from 1 March to the first of a month, the months counted from March. -/
def daysFromMarch (marchMonth : Nat) : Nat :=
  (153 * marchMonth + 2) / 5

theorem daysInMonth_two (year : Int) : daysInMonth year 2 = 28 + leapDays year := by
  rw [daysInMonth, leapDays]
  split <;> rfl

theorem daysInMonth_march (year : Int) {m : Nat} (h : m ≤ 9) :
    daysFromMarch m + daysInMonth year (m + 3) = daysFromMarch (m + 1) := by
  interval_cases m <;> rfl

theorem daysBeforeMonth_succ (year : Int) (month : Nat) :
    daysBeforeMonth year (month + 1) = daysBeforeMonth year month + daysInMonth year month := by
  have hfold : ∀ (months : List Nat) (days : Nat),
      months.foldr (fun m days => daysInMonth year m + days) days =
        months.foldr (fun m days => daysInMonth year m + days) 0 + days := by
    intro months days
    induction months with
    | nil => simp
    | cons m months ih => rw [List.foldr_cons, List.foldr_cons, ih, Nat.add_assoc]
  rw [daysBeforeMonth, List.range_succ, List.foldr_append, hfold, daysBeforeMonth]
  rfl

theorem daysBeforeMonth_march (year : Int) {m : Nat} (h : m ≤ 9) :
    daysBeforeMonth year (m + 3) = 59 + leapDays year + daysFromMarch m := by
  induction m with
  | zero =>
    rw [daysBeforeMonth_succ, daysInMonth_two]
    exact (Nat.add_assoc 31 28 _).symm
  | succ m ih =>
    have hmonth := daysInMonth_march year (m := m) (by omega)
    rw [daysBeforeMonth_succ year (m + 3), ih (by omega)]
    omega

/-! ## Years that start in March -/

/-- The date of a day in a year that starts in March. -/
def ofMarch (year : Int) (dayOfYear : Nat) : Date :=
  let marchMonth := (5 * dayOfYear + 2) / 153
  let day := dayOfYear - (153 * marchMonth + 2) / 5 + 1
  let month := if marchMonth < 10 then marchMonth + 3 else marchMonth - 9
  ⟨if month ≤ 2 then year + 1 else year, month, day⟩

/-- The days from 1970-01-01 to 1 March of a year. -/
def daysBeforeMarch (year : Int) : Int :=
  daysBeforeYear year + 59 + leapDays year

/-- The three shapes of a date: from March to December, in January, and in February. -/
theorem ofMarch_cases (year : Int) {dayOfYear : Nat} (h : dayOfYear ≤ 365) :
    (∃ m ≤ 9, ∃ day, dayOfYear = daysFromMarch m + day ∧ dayOfYear < daysFromMarch (m + 1) ∧
      ofMarch year dayOfYear = ⟨year, m + 3, day + 1⟩) ∨
    (∃ day, dayOfYear = 306 + day ∧ day < 31 ∧ ofMarch year dayOfYear = ⟨year + 1, 1, day + 1⟩) ∨
    (∃ day, dayOfYear = 337 + day ∧ ofMarch year dayOfYear = ⟨year + 1, 2, day + 1⟩) := by
  unfold ofMarch daysFromMarch
  dsimp only
  generalize hm : (5 * dayOfYear + 2) / 153 = m
  have hdays : (153 * m + 2) / 5 ≤ dayOfYear ∧ dayOfYear < (153 * (m + 1) + 2) / 5 := by omega
  obtain hlate | rfl | rfl : m ≤ 9 ∨ m = 10 ∨ m = 11 := by omega
  · have hmonth : ¬m + 3 ≤ 2 := by omega
    refine Or.inl ⟨m, hlate, dayOfYear - (153 * m + 2) / 5, by omega, hdays.2, ?_⟩
    rw [if_pos (Nat.lt_succ_of_le hlate), if_neg hmonth]
  · exact Or.inr (Or.inl ⟨dayOfYear - 306, by omega, by omega, rfl⟩)
  · exact Or.inr (Or.inr ⟨dayOfYear - 337, by omega, rfl⟩)

theorem toDays_ofMarch (year : Int) {dayOfYear : Nat} (h : dayOfYear ≤ 365) :
    (ofMarch year dayOfYear).toDays = daysBeforeMarch year + dayOfYear := by
  obtain ⟨m, hm, day, rfl, -, hdate⟩ | ⟨day, rfl, -, hdate⟩ | ⟨day, rfl, hdate⟩ :=
    ofMarch_cases year h
  · simp only [hdate, toDays, daysBeforeMonth_march year hm, daysBeforeMarch]
    omega
  · have hmonth : daysBeforeMonth (year + 1) 1 = 0 := rfl
    simp only [hdate, toDays, daysBeforeYear_succ, hmonth, daysBeforeMarch]
    omega
  · have hmonth : daysBeforeMonth (year + 1) 2 = 31 := rfl
    simp only [hdate, toDays, daysBeforeYear_succ, hmonth, daysBeforeMarch]
    omega

theorem exists?_ofMarch (year : Int) {dayOfYear : Nat}
    (h : dayOfYear < 365 + leapDays (year + 1)) : (ofMarch year dayOfYear).exists? = true := by
  have hleap : leapDays (year + 1) ≤ 1 := leapDays_le_one _
  have hsmall : dayOfYear ≤ 365 := by omega
  obtain ⟨m, hm, day, rfl, hday, hdate⟩ | ⟨day, rfl, hday, hdate⟩ | ⟨day, rfl, hdate⟩ :=
    ofMarch_cases year hsmall
  · have hmonth := daysInMonth_march year hm
    simp only [hdate, exists?, Bool.and_eq_true, decide_eq_true_eq]
    omega
  · have hmonth : daysInMonth (year + 1) 1 = 31 := rfl
    simp only [hdate, exists?, hmonth, Bool.and_eq_true, decide_eq_true_eq]
    omega
  · simp only [hdate, exists?, daysInMonth_two, Bool.and_eq_true, decide_eq_true_eq]
    omega

/-- The year of a day in a cycle of 400 years: it has begun, and the next one has not. -/
theorem dayOfCycle_bounds {day year : Nat} (h : day < 146097)
    (hyear : year = (day - day / 1460 + day / 36524 - day / 146096) / 365) :
    year ≤ 399 ∧ 365 * year + year / 4 - year / 100 ≤ day ∧
      day < 365 * (year + 1) + (year + 1) / 4 - (year + 1) / 100 + (year + 1) / 400 := by
  -- The century is that of the day, but for the last day, which ends the fourth one.
  have hcentury : year / 100 = day / 36524 ∨ day = 146096 ∧ year = 399 := by
    obtain hc | hc | hc | hc | hc : day / 36524 = 0 ∨ day / 36524 = 1 ∨ day / 36524 = 2 ∨
        day / 36524 = 3 ∨ day / 36524 = 4 := by omega
    all_goals omega
  have hleast : year / 4 ≤ day / 1460 := by omega
  have hmost : day / 1460 ≤ (year + 1) / 4 := by omega
  refine ⟨by omega, by omega, ?_⟩
  obtain hcentury | ⟨rfl, rfl⟩ := hcentury
  · obtain hnext | hnext : (year + 1) / 100 = year / 100 ∨
        year + 1 = 100 * (year / 100) + 100 := by omega
    · omega
    · omega
  · decide

/-- The years of a cycle begin where its days say they do. -/
theorem daysBeforeMarch_cycle {year : Nat} (h : year ≤ 399) (cycle : Int) :
    daysBeforeMarch (year + 400 * cycle) =
      (365 * year + year / 4 - year / 100 : Nat) + 146097 * cycle - 719468 := by
  rw [daysBeforeMarch, daysBeforeYear, leapDays_eq]
  omega

/-- The next year of a cycle begins 365 days later, or 366 before a leap year. -/
theorem leapDays_cycle {year : Nat} (h : year ≤ 399) (cycle : Int) :
    365 * (year + 1) + (year + 1) / 4 - (year + 1) / 100 + (year + 1) / 400 =
      365 * year + year / 4 - year / 100 + 365 + leapDays (year + 400 * cycle + 1) := by
  have hleap := leapDays_eq (year + 400 * cycle + 1)
  omega

/-- A day lies in a year that starts in March. -/
theorem exists_ofDays_eq (days : Int) :
    ∃ year dayOfYear, ofDays days = ofMarch year dayOfYear ∧
      dayOfYear < 365 + leapDays (year + 1) ∧ days = daysBeforeMarch year + dayOfYear := by
  let day := ((days + 719468) % 146097).toNat
  let cycle := (days + 719468) / 146097
  let year := (day - day / 1460 + day / 36524 - day / 146096) / 365
  have hday : day < 146097 := by omega
  have hdays : days = 146097 * cycle + day - 719468 := by omega
  have hyear : year = (day - day / 1460 + day / 36524 - day / 146096) / 365 := rfl
  obtain ⟨hlast, hbegun, hnext⟩ := dayOfCycle_bounds hday hyear
  refine ⟨year + 400 * cycle, day - (365 * year + year / 4 - year / 100), rfl, ?_, ?_⟩
  · rw [leapDays_cycle hlast cycle] at hnext
    exact Nat.sub_lt_left_of_lt_add hbegun (by rwa [← Nat.add_assoc])
  · rw [daysBeforeMarch_cycle hlast, Nat.cast_sub hbegun, hdays]
    ring

/-! ## Dates of days -/

/-- Counting the days of the date of a day gives the day back. -/
theorem toDays_ofDays (days : Int) : (ofDays days).toDays = days := by
  obtain ⟨year, dayOfYear, hdate, hday, hdays⟩ := exists_ofDays_eq days
  have hleap := leapDays_le_one (year + 1)
  rw [hdate, toDays_ofMarch year (by omega), ← hdays]

/-- The date of a day exists. -/
theorem exists?_ofDays (days : Int) : (ofDays days).exists? = true := by
  obtain ⟨year, dayOfYear, hdate, hday, -⟩ := exists_ofDays_eq days
  rw [hdate, exists?_ofMarch year hday]

/-- A date lies in one of twelve months, and the months before it leave room for its day. -/
theorem exists?_bounds {date : Date} (h : date.exists? = true) :
    date.month ≤ 12 ∧ 1 ≤ date.day ∧ date.day ≤ 31 ∧
      daysBeforeMonth date.year date.month + date.day ≤ 365 + leapDays date.year := by
  obtain ⟨year, month, day⟩ := date
  simp only [exists?, Bool.and_eq_true, decide_eq_true_eq] at h ⊢
  have hleap := leapDays_le_one year
  match month with
  | 0 =>
    have hlength : daysInMonth year 0 = 0 := rfl
    omega
  | 1 =>
    have hbefore : daysBeforeMonth year 1 = 0 := rfl
    have hlength : daysInMonth year 1 = 31 := rfl
    omega
  | 2 =>
    have hbefore : daysBeforeMonth year 2 = 31 := rfl
    rw [daysInMonth_two] at h
    omega
  | m + 3 =>
    by_cases hm : m ≤ 9
    · have hbefore := daysBeforeMonth_march year hm
      have hlength := daysInMonth_march year hm
      unfold daysFromMarch at hbefore hlength
      omega
    · obtain ⟨later, rfl⟩ := Nat.exists_eq_add_of_lt (not_le.mp hm)
      have hlength : daysInMonth year (9 + later + 1 + 3) = 0 := by
        rw [Nat.add_comm 9]
        rfl
      omega

/-- A date lies in its year. -/
theorem toDays_bounds {date : Date} (h : date.exists? = true) :
    daysBeforeYear date.year ≤ date.toDays ∧ date.toDays < daysBeforeYear (date.year + 1) := by
  obtain ⟨-, hday, -, hyear⟩ := exists?_bounds h
  rw [toDays, daysBeforeYear_succ]
  omega

end Date

end TcpJournal
