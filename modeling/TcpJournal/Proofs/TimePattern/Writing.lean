import TcpJournal.TimePattern.Render

/-!
# Time patterns that can be written

The text of a directive tells where it ends, so a pattern that ends behind a
directive is read alike in front of every text (`TimeItem.parse?_append`).

Every item but the permissive offset has a text at every instant.  A pattern
can therefore be written at every instant or at none.  The second is the case
exactly if it is not valid, or if the directive of the permissive offset stands
behind a valid part of it (`TimePattern.render_eq_none_iff`).
-/

namespace TcpJournal

/-- Mapping over a list fails exactly if it fails on a member. -/
theorem mapM_eq_none_iff {α β : Type} {f : α → Option β} {xs : List α} :
    xs.mapM f = none ↔ ∃ x ∈ xs, f x = none := by
  induction xs with
  | nil => simp
  | cons x xs ih =>
    rw [List.mapM_cons]
    cases hx : f x with
    | none => simp [hx]
    | some y =>
      cases hxs : xs.mapM f with
      | none => simpa [hx, hxs] using ih
      | some ys => simpa [hx, hxs] using ih

/-- What a list is mapped to comes from its members. -/
theorem exists_mem_of_mapM_eq_some {α β : Type} {f : α → Option β} {xs : List α} {ys : List β}
    (h : xs.mapM f = some ys) {y : β} (hy : y ∈ ys) : ∃ x ∈ xs, f x = some y := by
  induction xs generalizing ys with
  | nil =>
    cases h
    exact absurd hy List.not_mem_nil
  | cons x xs ih =>
    obtain ⟨first, hfirst, later, hlater, rfl⟩ : ∃ first, f x = some first ∧
        ∃ later, xs.mapM f = some later ∧ first :: later = ys := by
      simpa [List.mapM_cons, Option.bind_eq_some_iff] using h
    rcases List.mem_cons.mp hy with rfl | hmem
    · exact ⟨x, List.mem_cons_self, hfirst⟩
    · obtain ⟨source, hsource, htext⟩ := ih hlater hmem
      exact ⟨source, List.mem_cons_of_mem x hsource, htext⟩

namespace TimeItem

/-- A text that is read as a directive in front of every other text. -/
def IsDirective (directive : List Char) (items : List TimeItem) : Prop :=
  ∀ rest, directive? (directive ++ rest) = some (items, rest)

theorem isDirective_padded {flag letter : Char} {padding default : Padding} {field : TimeNumber}
    (hflag : paddingFlag? flag = some padding)
    (hletter : numberLetter? letter = some (field, default)) :
    IsDirective [flag, letter] [number field padding] := by
  intro rest
  unfold paddingFlag? at hflag
  split at hflag <;> cases hflag <;> simp [directive?, paddingFlag?, hletter]

theorem isDirective_number {letter : Char} {padding : Padding} {field : TimeNumber}
    (hletter : numberLetter? letter = some (field, padding)) :
    IsDirective [letter] [number field padding] := by
  intro rest
  unfold numberLetter? at hletter
  split at hletter <;> cases hletter <;> rfl

theorem isDirective_letter {letter : Char} {items : List TimeItem}
    (hletter : letter? letter = some items) : IsDirective [letter] items := by
  intro rest
  unfold letter? at hletter
  split at hletter <;> cases hletter <;> rfl

/-- A directive is read up to its end, whatever stands behind it. -/
theorem directive?_eq_some_iff {text rest : List Char} {items : List TimeItem} :
    directive? text = some (items, rest) ↔
      ∃ directive, IsDirective directive items ∧ text = directive ++ rest := by
  constructor
  · intro h
    unfold directive? at h
    split at h
    case h_1 => cases h; exact ⟨":::z".toList, fun _ => rfl, rfl⟩
    case h_2 => cases h; exact ⟨"::z".toList, fun _ => rfl, rfl⟩
    case h_3 => cases h; exact ⟨":z".toList, fun _ => rfl, rfl⟩
    case h_4 => cases h; exact ⟨".f".toList, fun _ => rfl, rfl⟩
    case h_5 => cases h; exact ⟨".3f".toList, fun _ => rfl, rfl⟩
    case h_6 => cases h; exact ⟨".6f".toList, fun _ => rfl, rfl⟩
    case h_7 => cases h; exact ⟨".9f".toList, fun _ => rfl, rfl⟩
    case h_8 => cases h; exact ⟨"3f".toList, fun _ => rfl, rfl⟩
    case h_9 => cases h; exact ⟨"6f".toList, fun _ => rfl, rfl⟩
    case h_10 => cases h; exact ⟨"9f".toList, fun _ => rfl, rfl⟩
    case h_11 => cases h; exact ⟨"#z".toList, fun _ => rfl, rfl⟩
    case h_12 =>
      split at h
      · obtain ⟨⟨field, default⟩, hletter, he⟩ := Option.map_eq_some_iff.mp h
        cases he
        exact ⟨[_, _], isDirective_padded ‹_› hletter, rfl⟩
      · cases h
      · split at h
        · next hletter =>
          cases h
          exact ⟨[_], isDirective_number hletter, rfl⟩
        · obtain ⟨items, hletter, he⟩ := Option.map_eq_some_iff.mp h
          cases he
          exact ⟨[_], isDirective_letter hletter, rfl⟩
    case h_13 => cases h
  · rintro ⟨directive, hdirective, rfl⟩
    exact hdirective rest

/-- Only `%#z` stands for the permissive offset. -/
theorem eq_of_permissiveOffset_mem {text rest : List Char} {items : List TimeItem}
    (h : directive? text = some (items, rest)) (hmem : permissiveOffset ∈ items) :
    text = '#' :: 'z' :: rest := by
  unfold directive? at h
  split at h
  case h_11 =>
    cases h
    rfl
  case h_12 =>
    split at h
    · obtain ⟨_, _, he⟩ := Option.map_eq_some_iff.mp h
      cases he
      simp at hmem
    · cases h
    · split at h
      · cases h
        simp at hmem
      · obtain ⟨_, hletter, he⟩ := Option.map_eq_some_iff.mp h
        cases he
        unfold letter? at hletter
        split at hletter <;> cases hletter <;> exact absurd hmem (by decide)
  case h_13 => cases h
  all_goals
    cases h
    simp at hmem

theorem parse?_nil : parse? [] = some [] := by
  rw [parse?]

theorem parse?_directive {text rest : List Char} {items : List TimeItem}
    (h : directive? text = some (items, rest)) :
    parse? ('%' :: text) = (parse? rest).map (items ++ ·) := by
  rw [parse?]
  split
  · next h' => cases h.symm.trans h'
  · next h' =>
    cases h.symm.trans h'
    rfl

theorem parse?_character {c : Char} (hc : c ≠ '%') (text : List Char) :
    parse? (c :: text) = (parse? text).map (character c :: ·) := by
  rw [parse?]
  rintro rfl
  exact absurd rfl hc

/-- A valid pattern is read alike in front of every text. -/
theorem parse?_append {text : List Char} {items : List TimeItem}
    (h : parse? text = some items) (later : List Char) :
    parse? (text ++ later) = (parse? later).map (items ++ ·) := by
  fun_induction parse? text generalizing items with
  | case1 =>
    cases h
    simp
  | case2 text hnone => cases h
  | case3 text its rest hdirective ih =>
    obtain ⟨more, hmore, rfl⟩ := Option.map_eq_some_iff.mp h
    obtain ⟨directive, hdir, rfl⟩ := directive?_eq_some_iff.mp hdirective
    rw [List.cons_append, List.append_assoc, parse?_directive (hdir _), ih hmore]
    cases parse? later <;> simp
  | case4 c text hc ih =>
    obtain ⟨more, hmore, rfl⟩ := Option.map_eq_some_iff.mp h
    rw [List.cons_append, parse?_character hc, ih hmore]
    cases parse? later <;> simp

/-- The items of a valid pattern hold the permissive offset exactly if `%#z`
stands behind a valid part of it. -/
theorem permissiveOffset_mem_iff {text : List Char} {items : List TimeItem}
    (h : parse? text = some items) :
    permissiveOffset ∈ items ↔
      ∃ before after, text = before ++ "%#z".toList ++ after ∧ (parse? before).isSome = true := by
  constructor
  · intro hmem
    fun_induction parse? text generalizing items with
    | case1 =>
      cases h
      simp at hmem
    | case2 text hnone => cases h
    | case3 text its rest hdirective ih =>
      obtain ⟨more, hmore, rfl⟩ := Option.map_eq_some_iff.mp h
      rcases List.mem_append.mp hmem with hits | hlater
      · rw [eq_of_permissiveOffset_mem hdirective hits]
        exact ⟨[], rest, rfl, by rw [parse?_nil]; rfl⟩
      · obtain ⟨before, after, rfl, hbefore⟩ := ih hmore hlater
        obtain ⟨directive, hdir, rfl⟩ := directive?_eq_some_iff.mp hdirective
        refine ⟨'%' :: (directive ++ before), after, by simp, ?_⟩
        rw [parse?_directive (hdir before), Option.isSome_map]
        exact hbefore
    | case4 c text hc ih =>
      obtain ⟨more, hmore, rfl⟩ := Option.map_eq_some_iff.mp h
      obtain ⟨before, after, rfl, hbefore⟩ := ih hmore (by simpa using hmem)
      refine ⟨c :: before, after, rfl, ?_⟩
      rw [parse?_character hc, Option.isSome_map]
      exact hbefore
  · rintro ⟨before, after, rfl, hbefore⟩
    obtain ⟨its, hits⟩ := Option.isSome_iff_exists.mp hbefore
    have hoffset : parse? ("%#z".toList ++ after) =
        (parse? after).map ([permissiveOffset] ++ ·) := parse?_directive rfl
    rw [List.append_assoc, parse?_append hits, hoffset] at h
    obtain ⟨_, hlater, rfl⟩ := Option.map_eq_some_iff.mp h
    obtain ⟨_, _, rfl⟩ := Option.map_eq_some_iff.mp hlater
    simp

/-- Every item but the permissive offset has a text. -/
theorem render?_eq_none_iff {item : TimeItem} {t : CalendarTime} :
    item.render? t = none ↔ item = permissiveOffset := by
  cases item <;> simp [render?]

end TimeItem

namespace TimePattern

/-- The directive `%#z` stands behind a valid part of the pattern. -/
def HoldsPermissiveOffset (pattern : TimePattern) : Prop :=
  ∃ before after, pattern.text = before ++ "%#z".toList ++ after ∧
    (TimePattern.mk before).isValid = true

theorem renderItems_eq_none_iff {items : List TimeItem} {t : Instant} :
    renderItems items t = none ↔ .permissiveOffset ∈ items := by
  simp [renderItems, mapM_eq_none_iff, TimeItem.render?_eq_none_iff]

/-- Whether a pattern can be written does not depend on the instant. -/
theorem render_eq_none_iff {pattern : TimePattern} {t : Instant} :
    pattern.render t = none ↔ pattern.isValid = false ∨ pattern.HoldsPermissiveOffset := by
  unfold render isValid
  cases hitems : TimeItem.parse? pattern.text with
  | none => simp
  | some items =>
    simp [renderItems_eq_none_iff, TimeItem.permissiveOffset_mem_iff hitems,
      HoldsPermissiveOffset, isValid]

end TimePattern

end TcpJournal
