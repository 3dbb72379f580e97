import TcpJournal.Lines

/-!
# Complete lines and headers

A line is complete once its newline has arrived, and a header once the empty
line behind it has.  Bytes that arrive later change neither: what
`Bytes.firstLine?` and `Bytes.headerLines?` answer about a stream they answer
about every longer stream.  No line holds a newline.
-/

namespace TcpJournal

namespace Bytes

/-- A byte string is split at its first newline. -/
theorem splitLine?_eq_some_iff {bytes line rest : Bytes} :
    splitLine? bytes = some (line, rest) ↔
      newline ∉ line ∧ bytes = line ++ newline :: rest := by
  induction bytes generalizing line with
  | nil => simp [splitLine?]
  | cons b tail ih =>
    rw [splitLine?]
    by_cases hb : b = newline
    · rw [if_pos hb]
      constructor
      · intro h
        cases h
        simp [hb]
      · rintro ⟨hmem, hbytes⟩
        cases line with
        | nil =>
          cases hbytes
          rfl
        | cons c line =>
          cases hbytes
          exact absurd List.mem_cons_self (hb ▸ hmem)
    · rw [if_neg hb, Option.map_eq_some_iff]
      constructor
      · rintro ⟨⟨l, r⟩, hl, he⟩
        cases he
        obtain ⟨hmem, rfl⟩ := ih.mp hl
        exact ⟨by simp [Ne.symm hb, hmem], rfl⟩
      · rintro ⟨hmem, hbytes⟩
        cases line with
        | nil =>
          cases hbytes
          exact absurd rfl hb
        | cons c line =>
          cases hbytes
          rw [List.mem_cons, not_or] at hmem
          exact ⟨(line, rest), ih.mpr ⟨hmem.2, rfl⟩, rfl⟩

theorem splitLine?_append {bytes line rest : Bytes}
    (h : splitLine? bytes = some (line, rest)) (more : Bytes) :
    splitLine? (bytes ++ more) = some (line, rest ++ more) := by
  obtain ⟨hmem, rfl⟩ := splitLine?_eq_some_iff.mp h
  exact splitLine?_eq_some_iff.mpr ⟨hmem, by simp⟩

theorem newline_notMem_withoutReturn {line : Bytes} (h : newline ∉ line) :
    newline ∉ withoutReturn line := by
  unfold withoutReturn
  split
  · exact fun hmem => h (List.dropLast_subset _ hmem)
  · exact h

/-- A first line stays the first line of every longer stream. -/
theorem firstLine?_append {bytes line : Bytes} (h : firstLine? bytes = some line)
    (more : Bytes) : firstLine? (bytes ++ more) = some line := by
  obtain ⟨⟨raw, rest⟩, hsplit, rfl⟩ := Option.map_eq_some_iff.mp h
  rw [firstLine?, splitLine?_append hsplit more]
  rfl

theorem newline_notMem_of_firstLine? {bytes line : Bytes} (h : firstLine? bytes = some line) :
    newline ∉ line := by
  obtain ⟨⟨raw, rest⟩, hsplit, rfl⟩ := Option.map_eq_some_iff.mp h
  exact newline_notMem_withoutReturn (splitLine?_eq_some_iff.mp hsplit).1

/-- The lines of a header, one line at a time. -/
theorem linesToBlank?_of_splitLine? {bytes line rest : Bytes}
    (h : splitLine? bytes = some (line, rest)) :
    linesToBlank? bytes =
      if withoutReturn line = [] then some []
      else (linesToBlank? rest).map (withoutReturn line :: ·) := by
  rw [linesToBlank?]
  split
  · next hnone =>
    rw [h] at hnone
    cases hnone
  · next hsome =>
    rw [h] at hsome
    cases hsome
    rfl

/-- The lines of a complete header stay the same in every longer stream. -/
theorem linesToBlank?_append {bytes : Bytes} {lines : List Bytes}
    (h : linesToBlank? bytes = some lines) (more : Bytes) :
    linesToBlank? (bytes ++ more) = some lines := by
  fun_induction linesToBlank? bytes generalizing lines with
  | case1 bytes hnone => cases h
  | case2 bytes raw rest hsplit line =>
    rename_i hblank
    rw [linesToBlank?_of_splitLine? (splitLine?_append hsplit more), if_pos hblank]
    exact h
  | case3 bytes raw rest hsplit line =>
    rename_i hblank ih
    obtain ⟨later, hlater, rfl⟩ := Option.map_eq_some_iff.mp h
    rw [linesToBlank?_of_splitLine? (splitLine?_append hsplit more), if_neg hblank, ih hlater]
    rfl

theorem newline_notMem_of_linesToBlank? {bytes : Bytes} {lines : List Bytes}
    (h : linesToBlank? bytes = some lines) : ∀ line ∈ lines, newline ∉ line := by
  fun_induction linesToBlank? bytes generalizing lines with
  | case1 bytes hnone => cases h
  | case2 bytes raw rest hsplit line =>
    cases h
    exact List.forall_mem_nil _
  | case3 bytes raw rest hsplit line =>
    rename_i hblank ih
    obtain ⟨later, hlater, rfl⟩ := Option.map_eq_some_iff.mp h
    have hline := newline_notMem_withoutReturn (splitLine?_eq_some_iff.mp hsplit).1
    exact List.forall_mem_cons.mpr ⟨hline, ih hlater⟩

/-- A complete header stays the same in every longer stream. -/
theorem headerLines?_append {bytes : Bytes} {lines : List Bytes}
    (h : headerLines? bytes = some lines) (more : Bytes) :
    headerLines? (bytes ++ more) = some lines := by
  unfold headerLines? at h
  split at h
  · cases h
  · next hsplit =>
    rw [headerLines?, splitLine?_append hsplit more]
    exact linesToBlank?_append h more

theorem newline_notMem_of_headerLines? {bytes : Bytes} {lines : List Bytes}
    (h : headerLines? bytes = some lines) : ∀ line ∈ lines, newline ∉ line := by
  unfold headerLines? at h
  split at h
  · cases h
  · exact newline_notMem_of_linesToBlank? h

end Bytes

end TcpJournal
