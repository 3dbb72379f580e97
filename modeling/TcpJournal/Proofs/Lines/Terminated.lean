import Mathlib.Data.List.Basic
import TcpJournal.Proofs.Lines.Completion

/-!
# The first line and the header among the terminated lines

The terminated lines of a byte stream are what cutting it at newlines gives, without
the last piece, which no newline ends; each of them without a carriage return at its end
(`Bytes.terminatedLines`).

The first line is the first of them (`Bytes.firstLine?_eq_head?`).  The header lines are
those behind it, up to the first empty one (`Bytes.headerLines?_eq`).  Terminated lines
only grow at the end when bytes arrive, so an answer is final.
-/

namespace TcpJournal

namespace Bytes

/-- The pieces of a byte stream that a newline ends, each without one carriage return at
its end. -/
def terminatedLines (bytes : Bytes) : List Bytes :=
  (bytes.splitOn newline).dropLast.map fun piece =>
    (piece.dropSuffix? [carriageReturn]).getD piece

theorem getD_dropSuffix?_return (piece : Bytes) :
    (piece.dropSuffix? [carriageReturn]).getD piece = withoutReturn piece := by
  unfold withoutReturn
  split
  · next hlast =>
    obtain ⟨line, rfl⟩ := List.getLast?_eq_some_iff.mp hlast
    have hdrop : (line ++ [carriageReturn]).dropSuffix? [carriageReturn] = some line :=
      List.dropSuffix?_eq_some_iff.mpr ⟨_, rfl, BEq.rfl⟩
    rw [hdrop, Option.getD_some, List.dropLast_concat]
  · next hlast =>
    have hdrop : piece.dropSuffix? [carriageReturn] = none := by
      rw [Option.eq_none_iff_forall_ne_some]
      intro line hline
      obtain ⟨suffix, rfl, hsuffix⟩ := List.dropSuffix?_eq_some_iff.mp hline
      rw [beq_iff_eq.mp hsuffix, List.getLast?_concat] at hlast
      exact hlast rfl
    rw [hdrop, Option.getD_none]

/-- A line that has been split off is the first of the terminated lines. -/
theorem terminatedLines_of_splitLine? {bytes line rest : Bytes}
    (h : splitLine? bytes = some (line, rest)) :
    terminatedLines bytes = withoutReturn line :: terminatedLines rest := by
  obtain ⟨hline, rfl⟩ := splitLine?_eq_some_iff.mp h
  have hne : rest.splitOn newline ≠ [] := by simp
  rw [terminatedLines, List.splitOn_append_cons_self_of_not_mem hline,
    List.dropLast_cons_of_ne_nil hne, List.map_cons, getD_dropSuffix?_return, terminatedLines]

/-- Bytes without a newline hold no terminated line. -/
theorem terminatedLines_of_splitLine?_eq_none {bytes : Bytes} (h : splitLine? bytes = none) :
    terminatedLines bytes = [] := by
  have hnewline : newline ∉ bytes := by
    intro hmem
    obtain ⟨line, rest, rfl, hline⟩ := List.eq_append_cons_of_mem hmem
    rw [splitLine?_eq_some_iff.mpr ⟨hline, rfl⟩] at h
    cases h
  rw [terminatedLines, List.splitOn_eq_singleton hnewline]
  rfl

/-- The first line is the first terminated line. -/
theorem firstLine?_eq_head? (bytes : Bytes) :
    firstLine? bytes = (terminatedLines bytes).head? := by
  rw [firstLine?]
  cases h : splitLine? bytes with
  | none => rw [terminatedLines_of_splitLine?_eq_none h]; rfl
  | some found => rw [terminatedLines_of_splitLine? h]; rfl

/-- The lines before the first empty one, if there is an empty one. -/
def beforeEmpty? (lines : List Bytes) : Option (List Bytes) :=
  if [] ∈ lines then some (lines.takeWhile (· ≠ [])) else none

theorem linesToBlank?_eq (bytes : Bytes) :
    linesToBlank? bytes = beforeEmpty? (terminatedLines bytes) := by
  fun_induction linesToBlank? bytes with
  | case1 bytes hnone =>
    rw [terminatedLines_of_splitLine?_eq_none hnone]
    rfl
  | case2 bytes raw rest hsplit line =>
    rename_i hblank
    have hraw : withoutReturn raw = [] := hblank
    rw [terminatedLines_of_splitLine? hsplit, hraw]
    rfl
  | case3 bytes raw rest hsplit line =>
    rename_i hblank ih
    have hraw : withoutReturn raw ≠ [] := hblank
    rw [terminatedLines_of_splitLine? hsplit, ih, beforeEmpty?, beforeEmpty?]
    by_cases hmem : [] ∈ terminatedLines rest <;> simp [hmem, hraw, Ne.symm hraw, line]

/-- The header lines are the terminated lines behind the first up to an empty one. -/
theorem headerLines?_eq (bytes : Bytes) :
    headerLines? bytes = beforeEmpty? (terminatedLines bytes).tail := by
  rw [headerLines?]
  cases h : splitLine? bytes with
  | none => rw [terminatedLines_of_splitLine?_eq_none h]; rfl
  | some found =>
    rw [terminatedLines_of_splitLine? h]
    exact linesToBlank?_eq found.2

theorem takeWhile_append_empty {before : List Bytes} (h : [] ∉ before) (later : List Bytes) :
    (before ++ [] :: later).takeWhile (· ≠ []) = before := by
  have hall : ∀ line ∈ before, decide (line ≠ []) = true := by
    intro line hline
    exact decide_eq_true fun hempty => h (hempty ▸ hline)
  rw [List.takeWhile_append_of_pos hall, List.takeWhile_cons_of_neg (by simp), List.append_nil]

theorem beforeEmpty?_eq_some_iff {lines before : List Bytes} :
    beforeEmpty? lines = some before ↔ ∃ later, lines = before ++ [] :: later ∧ [] ∉ before := by
  constructor
  · intro h
    unfold beforeEmpty? at h
    split at h
    · next hmem =>
      obtain ⟨front, later, rfl, hfront⟩ := List.eq_append_cons_of_mem hmem
      rw [takeWhile_append_empty hfront] at h
      cases h
      exact ⟨later, rfl, hfront⟩
    · cases h
  · rintro ⟨later, rfl, hbefore⟩
    rw [beforeEmpty?, if_pos (by simp), takeWhile_append_empty hbefore]

theorem beforeEmpty?_ne_none_iff {lines : List Bytes} :
    beforeEmpty? lines ≠ none ↔ [] ∈ lines := by
  simp [beforeEmpty?]

/-- The first line is the first terminated line.  There is a header exactly if a terminated
line behind the first is empty, and its lines are those between the first line and the
earliest such empty line; none of them is empty or holds a newline.  Both answers stay the
same when more bytes arrive, and a header comes with a first line. -/
theorem headers_of_terminatedLines (bytes : Bytes) :
    firstLine? bytes = (terminatedLines bytes).head? ∧
    (headerLines? bytes ≠ none ↔ [] ∈ (terminatedLines bytes).tail) ∧
    (∀ lines, headerLines? bytes = some lines ↔
      ∃ later, (terminatedLines bytes).tail = lines ++ [] :: later ∧ [] ∉ lines) ∧
    (∀ lines, headerLines? bytes = some lines → ∀ line ∈ lines, line ≠ [] ∧ newline ∉ line) ∧
    (∀ line, firstLine? bytes = some line →
      ∀ more, firstLine? (bytes ++ more) = some line) ∧
    (∀ lines, headerLines? bytes = some lines →
      ∀ more, headerLines? (bytes ++ more) = some lines) ∧
    (headerLines? bytes ≠ none → firstLine? bytes ≠ none) := by
  have hheader : ∀ lines, headerLines? bytes = some lines ↔
      ∃ later, (terminatedLines bytes).tail = lines ++ [] :: later ∧ [] ∉ lines := by
    intro lines
    rw [headerLines?_eq, beforeEmpty?_eq_some_iff]
  have hempty : headerLines? bytes ≠ none ↔ [] ∈ (terminatedLines bytes).tail := by
    rw [headerLines?_eq, beforeEmpty?_ne_none_iff]
  refine ⟨firstLine?_eq_head? bytes, hempty, hheader, ?_, fun _ => firstLine?_append,
    fun _ => headerLines?_append, ?_⟩
  · intro lines hlines line hline
    obtain ⟨later, -, hnonempty⟩ := (hheader lines).mp hlines
    exact ⟨fun h => hnonempty (h ▸ hline), newline_notMem_of_headerLines? hlines line hline⟩
  · intro hsome hnone
    rw [firstLine?_eq_head?, List.head?_eq_none_iff] at hnone
    rw [hempty, hnone] at hsome
    cases hsome

/-- The empty line that ends a header may be a carriage return before its newline, and a
second carriage return belongs to the line. -/
theorem headers_of_lone_returns :
    let bytes := ofString "\nA: 1\r\r\n\r\nbody"
    firstLine? bytes = some [] ∧ headerLines? bytes = some [ofString "A: 1\r"] ∧
      headerLines? (bytes ++ ofString "\n\n") = some [ofString "A: 1\r"] := by
  intro bytes
  obtain ⟨hfirst, -, hheader, -, -, hstable, -⟩ := headers_of_terminatedLines bytes
  have hlines : headerLines? bytes = some [ofString "A: 1\r"] :=
    (hheader _).mpr ⟨[], by decide +kernel, by decide⟩
  refine ⟨?_, hlines, hstable _ hlines _⟩
  rw [hfirst]
  decide +kernel

end Bytes

end TcpJournal
