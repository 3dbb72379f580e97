import TcpJournal.Proofs.Text.OneLine
import TcpJournal.Proofs.TimePattern.Writing

/-!
# Time patterns on one line

An item writes a newline only if it is the newline itself
(`TimeItem.newline_mem_iff_of_render?`), and a pattern has this item only if the
newline stands in it or the directive `%n` does.  Every other pattern writes every
instant on one line.
-/

namespace TcpJournal

namespace Date

/-- Month and day names have no newline. -/
theorem newline_notMem_getD {names : List String} (h : ∀ name ∈ names, '\n' ∉ name.toList)
    (i : Nat) : '\n' ∉ (names.getD i "").toList := by
  rw [List.getD_eq_getElem?_getD]
  cases hname : names[i]? with
  | none => decide
  | some name => exact h name (List.mem_of_getElem? hname)

theorem newline_notMem_monthName (month : Nat) : '\n' ∉ monthName month :=
  newline_notMem_getD (by decide) _

theorem newline_notMem_weekdayName (sinceMonday : Nat) : '\n' ∉ weekdayName sinceMonday :=
  newline_notMem_getD (by decide) _

end Date

namespace TimeItem

/-- The characters behind the digits come after the newline. -/
theorem digitChar_ne_newline (n : Nat) : digitChar n ≠ '\n' := by
  intro h
  rw [digitChar, Char.ofNat] at h
  by_cases hvalid : ('0'.toNat + n).isValidChar
  · rw [dif_pos hvalid] at h
    have hcode : 48 + n = 10 := congrArg Char.toNat h
    omega
  · rw [dif_neg hvalid] at h
    exact absurd h (by decide)

theorem newline_notMem_twoDigits (padding : Padding) (n : Nat) :
    '\n' ∉ twoDigits padding n := by
  have hdigit : ∀ m, '\n' ≠ digitChar m := fun m => (digitChar_ne_newline m).symm
  unfold twoDigits
  dsimp only
  split
  · cases padding <;> simp [hdigit]
  · simp [hdigit]

theorem newline_notMem_wide {padding : Padding} {width : Nat} {sign digits : List Char}
    (hsign : '\n' ∉ sign) (hdigits : '\n' ∉ digits) : '\n' ∉ wide padding width sign digits := by
  have hboth : '\n' ∉ sign ++ digits := by
    rw [List.mem_append, not_or]
    exact ⟨hsign, hdigits⟩
  cases padding with
  | bare => exact hboth
  | zeros =>
    rw [wide, List.mem_append, not_or]
    exact ⟨hsign, Decimal.newline_notMem_padLeft (by decide) hdigits⟩
  | spaces => exact Decimal.newline_notMem_padLeft (by decide) hboth

theorem newline_notMem_yearText (padding : Padding) (year : Int) :
    '\n' ∉ yearText padding year := by
  have hdigits := Decimal.newline_notMem_digits year.natAbs
  unfold yearText
  split
  · exact hdigits
  · split
    · exact newline_notMem_wide (by decide) hdigits
    · refine newline_notMem_wide ?_ hdigits
      unfold explicitSign
      split <;> decide

theorem newline_notMem_numberText (padding : Padding) (t : CalendarTime) (field : TimeNumber) :
    '\n' ∉ numberText padding t field := by
  cases field with
  | year | isoYear => exact newline_notMem_yearText _ _
  | quarter | daysFromSunday | weekday =>
    exact fun h => digitChar_ne_newline _ (List.mem_singleton.mp h).symm
  | dayOfYear | nanosecond =>
    exact newline_notMem_wide (by decide) (Decimal.newline_notMem_digits _)
  | unixSeconds =>
    refine newline_notMem_wide ?_ (Decimal.newline_notMem_digits _)
    unfold minusSign
    split <;> decide
  | century | yearOfCentury | isoYearOfCentury | isoWeek | month | day | sundayWeek | mondayWeek
  | hour | hour12 | minute | second => exact newline_notMem_twoDigits _ _

theorem newline_notMem_nameText {long : Bool} {name : List Char} (h : '\n' ∉ name) :
    '\n' ∉ nameText long name := by
  unfold nameText
  split
  · exact h
  · exact fun hmem => h (List.mem_of_mem_take hmem)

theorem newline_notMem_shortestFractionText (nanos : Nat) :
    '\n' ∉ shortestFractionText nanos := by
  have hfraction : ∀ places, '\n' ∉ '.' :: fractionText places nanos := by
    intro places
    rw [List.mem_cons, not_or]
    exact ⟨by decide, Decimal.newline_notMem_padded _ _⟩
  unfold shortestFractionText
  split
  · exact List.not_mem_nil
  · split
    · exact hfraction 3
    · split
      · exact hfraction 6
      · exact hfraction 9

theorem newline_notMem_offsetText (form : OffsetForm) : '\n' ∉ offsetText form := by
  cases form <;> decide

theorem newline_notMem_dateTimeText (t : CalendarTime) : '\n' ∉ dateTimeText t := by
  simp [dateTimeText, newline_notMem_yearText, newline_notMem_twoDigits,
    newline_notMem_shortestFractionText, newline_notMem_offsetText]

/-- The only item that writes a newline is the newline. -/
theorem newline_mem_iff_of_render? {item : TimeItem} {t : CalendarTime} {text : List Char}
    (h : item.render? t = some text) : '\n' ∈ text ↔ item = character '\n' := by
  have hother : '\n' ∉ text → item ≠ character '\n' → ('\n' ∈ text ↔ item = character '\n') :=
    fun hmem hitem => iff_of_false hmem hitem
  cases item with
  | permissiveOffset => cases h
  | character c =>
    cases h
    rw [List.mem_singleton, character.injEq, eq_comm]
  | number field padding =>
    cases h
    exact hother (newline_notMem_numberText _ _ _) nofun
  | monthName long =>
    cases h
    exact hother (newline_notMem_nameText (Date.newline_notMem_monthName _)) nofun
  | weekdayName long =>
    cases h
    exact hother (newline_notMem_nameText (Date.newline_notMem_weekdayName _)) nofun
  | halfDay upper =>
    cases h
    refine hother ?_ nofun
    split <;> decide
  | shortestFraction =>
    cases h
    exact hother (newline_notMem_shortestFractionText _) nofun
  | fraction places point =>
    cases h
    refine hother ?_ nofun
    rw [List.mem_append, not_or]
    refine ⟨?_, Decimal.newline_notMem_padded _ _⟩
    cases point <;> decide
  | zoneName =>
    cases h
    exact hother (by decide) nofun
  | offset form =>
    cases h
    exact hother (newline_notMem_offsetText form) nofun
  | dateTime =>
    cases h
    exact hother (newline_notMem_dateTimeText t) nofun

/-- Of the directives only `%n` stands for a newline. -/
theorem eq_of_newline_mem_directive? {text rest : List Char} {items : List TimeItem}
    (h : directive? text = some (items, rest)) (hmem : character '\n' ∈ items) :
    text = 'n' :: rest := by
  unfold directive? at h
  split at h
  case h_12 =>
    split at h
    · obtain ⟨_, _, he⟩ := Option.map_eq_some_iff.mp h
      cases he
      simp at hmem
    · cases h
    · split at h
      · cases h
        simp at hmem
      · obtain ⟨_, hletter, he⟩ := Option.map_eq_some_iff.mp h
        cases he
        unfold letter? at hletter
        split at hletter <;> cases hletter
        case h_12 => rfl
        all_goals exact absurd hmem (by decide)
  case h_13 => cases h
  all_goals
    cases h
    simp at hmem

/-- The newline is an item of a pattern only if it stands there or `%n` does. -/
theorem newline_of_mem_parse? {text : List Char} {items : List TimeItem}
    (h : parse? text = some items) (hmem : character '\n' ∈ items) :
    '\n' ∈ text ∨ "%n".toList <:+: text := by
  fun_induction parse? text generalizing items with
  | case1 =>
    cases h
    exact absurd hmem List.not_mem_nil
  | case2 text hnone => cases h
  | case3 text its rest hdirective ih =>
    obtain ⟨more, hmore, rfl⟩ := Option.map_eq_some_iff.mp h
    rcases List.mem_append.mp hmem with hits | hlater
    · rw [eq_of_newline_mem_directive? hdirective hits]
      exact .inr ⟨[], rest, rfl⟩
    · obtain ⟨directive, -, rfl⟩ := directive?_eq_some_iff.mp hdirective
      have hsuffix : rest <:+ '%' :: (directive ++ rest) := ⟨'%' :: directive, rfl⟩
      exact (ih hmore hlater).imp (fun h => hsuffix.subset h) fun h => h.trans hsuffix.isInfix
  | case4 c text hc ih =>
    obtain ⟨more, hmore, rfl⟩ := Option.map_eq_some_iff.mp h
    rcases List.mem_cons.mp hmem with hitem | hlater
    · cases hitem
      exact .inl List.mem_cons_self
    · have hsuffix : text <:+ c :: text := List.suffix_cons c text
      exact (ih hmore hlater).imp (fun h => hsuffix.subset h) fun h => h.trans hsuffix.isInfix

end TimeItem

namespace TimePattern

/-- Neither a newline nor the directive `%n` stands in the pattern. -/
def IsOneLine (pattern : TimePattern) : Prop :=
  '\n' ∉ pattern.text ∧ ¬"%n".toList <:+: pattern.text

/-- A pattern on one line writes every instant on one line. -/
theorem newline_notMem_of_render {pattern : TimePattern} (hline : pattern.IsOneLine)
    {t : Instant} {text : List Char} (h : pattern.render t = some text) : '\n' ∉ text := by
  intro hmem
  unfold render at h
  split at h
  · cases h
  · next items hitems =>
    obtain ⟨texts, htexts, rfl⟩ := Option.map_eq_some_iff.mp h
    obtain ⟨part, hpart, hnewline⟩ := List.mem_flatten.mp hmem
    obtain ⟨item, hitem, hrender⟩ := exists_mem_of_mapM_eq_some htexts hpart
    rw [TimeItem.newline_mem_iff_of_render? hrender] at hnewline
    rw [hnewline] at hitem
    rcases TimeItem.newline_of_mem_parse? hitems hitem with hchar | hdirective
    · exact hline.1 hchar
    · exact hline.2 hdirective

end TimePattern

end TcpJournal
