import Mathlib.Data.List.Basic
import TcpJournal.Proofs.Trace.Lines

/-!
# Line numbers

A reader that is asked until the end of its stream hands out one answer for each
line that is neither blank nor a comment, and goes on behind an error.  A line that
is not UTF-8 is answered with an error too, but the reader does not count it.

The main statement (`Trace.Reader.inStep_answers_iff`) gives the number behind each
answer: it counts the lines that are UTF-8 among those that have been read.  So a
reader stays in step with its stream exactly if every line is UTF-8.
-/

namespace TcpJournal

namespace Trace

/-- What a reader hands out for a line with a number, unless the line is blank or a
comment. -/
def lineItem? (number : Nat) (line : Bytes) : Option (Except ReadError Event) :=
  if isReadable line then (lineEvent? line).map .ok else some (.error (lineError number line))

/-- A line that is UTF-8 is counted, and no other. -/
theorem readLine_eq (number : Nat) (line : Bytes) :
    readLine number line =
      (number + if isText line then 1 else 0, lineItem? (number + 1) line) := by
  cases hreadable : isReadable line with
  | true =>
    rw [readLine_of_isReadable hreadable, lineItem?, if_pos (isText_of_isReadable hreadable),
      if_pos hreadable]
  | false =>
    rw [readLine_of_not_isReadable hreadable, lineItem?, hreadable]
    cases isText line <;> rfl

theorem lineItem?_of_not_isText {line : Bytes} (h : isText line = false) (number : Nat) :
    lineItem? number line = some (.error .notText) := by
  have hreadable : isReadable line = false :=
    Bool.eq_false_iff.mpr fun hreadable => by simp [isText_of_isReadable hreadable] at h
  have hnone : lineText? line = none := by simpa [isText] using h
  rw [lineItem?, hreadable, lineError, if_pos hnone]
  rfl

/-- An error about a bad line has the number of this line. -/
theorem eq_of_lineItem?_eq_badLine {number told : Nat} {line : Bytes}
    (h : lineItem? number line = some (.error (.badLine told))) : told = number := by
  unfold lineItem? at h
  split at h
  · obtain ⟨event, -, hevent⟩ := Option.map_eq_some_iff.mp h
    cases hevent
  · unfold lineError at h
    split at h
    · cases h
    · cases h
      rfl

namespace Reader

/-- The answers of a reader that is asked until the end of its stream, each with the
reader behind it. -/
def answers (reader : Reader) : List (Except ReadError Event × Reader) :=
  match _h : reader.next with
  | (none, _) => []
  | (some item, later) => (item, later) :: later.answers
termination_by reader.lines.length
decreasing_by exact length_lines_lt_of_nextIn _h

theorem answers_of_next {reader later : Reader} {item : Except ReadError Event}
    (h : reader.next = (some item, later)) :
    reader.answers = (item, later) :: later.answers := by
  rw [answers]
  split
  · next hnext => simp [h] at hnext
  · next hnext =>
    rw [h] at hnext
    cases hnext
    rfl

theorem answers_of_next_eq_none {reader later : Reader} (h : reader.next = (none, later)) :
    reader.answers = [] := by
  rw [answers]
  split
  · rfl
  · next hnext => simp [h] at hnext

theorem answers_nil (number : Nat) : answers ⟨[], number⟩ = [] :=
  answers_of_next_eq_none rfl

/-- The reader behind a line. -/
def behind (line : Bytes) (rest : List Bytes) (number : Nat) : Reader :=
  ⟨rest, number + if isText line then 1 else 0⟩

/-- The answers of a reader are those for its lines, line by line. -/
theorem answers_cons (line : Bytes) (rest : List Bytes) (number : Nat) :
    answers ⟨line :: rest, number⟩ =
      ((lineItem? (number + 1) line).map (·, behind line rest number)).toList ++
        (behind line rest number).answers := by
  cases hitem : lineItem? (number + 1) line with
  | some item =>
    have hnext : next ⟨line :: rest, number⟩ = (some item, behind line rest number) := by
      rw [next, nextIn, readLine_eq, hitem]
      rfl
    exact answers_of_next hnext
  | none =>
    have hnext : next ⟨line :: rest, number⟩ = (behind line rest number).next := by
      rw [next, nextIn, readLine_eq, hitem]
      rfl
    rw [answers, answers, hnext]
    rfl

/-- What a reader finds are its answers, each with the number behind it. -/
theorem fst_items (reader : Reader) :
    reader.items.1 = reader.answers.map fun answer => (answer.2.number, answer.1) := by
  obtain ⟨lines, number⟩ := reader
  change (itemsIn lines number).1 = _
  induction lines generalizing number with
  | nil => simp [itemsIn, answers_nil]
  | cons line rest ih =>
    rw [itemsIn, readLine_eq, answers_cons, List.map_append, behind, ← ih]
    cases lineItem? (number + 1) line <;> rfl

/-- Each line that is neither blank nor a comment has one answer, whose number counts
the lines up to it that are UTF-8. -/
theorem mem_answers_iff {lines : List Bytes} {number : Nat} {item : Except ReadError Event}
    {later : Reader} :
    (item, later) ∈ answers ⟨lines, number⟩ ↔
      ∃ before line, lines = before ++ line :: later.lines ∧
        lineItem? (number + before.countP isText + 1) line = some item ∧
        later.number = number + (before ++ [line]).countP isText := by
  induction lines generalizing number with
  | nil => simp [answers_nil]
  | cons first rest ih =>
    have hcount : ∀ lines : List Bytes, (first :: lines).countP isText =
        (if isText first then 1 else 0) + lines.countP isText := fun lines => by
      rw [List.countP_cons, Nat.add_comm]
    rw [answers_cons, List.mem_append]
    constructor
    · rintro (hfirst | hrest)
      · obtain ⟨told, htold, heq⟩ := Option.map_eq_some_iff.mp (Option.mem_toList.mp hfirst)
        cases heq
        exact ⟨[], first, rfl, htold, by simp [behind, hcount]⟩
      · obtain ⟨before, line, rfl, hitem, hnumber⟩ := ih.mp hrest
        refine ⟨first :: before, line, rfl, ?_, ?_⟩
        · rwa [hcount, ← Nat.add_assoc]
        · rw [hnumber, List.cons_append, hcount, Nat.add_assoc]
    · rintro ⟨_ | ⟨head, before⟩, line, hlines, hitem, hnumber⟩
      · obtain ⟨rfl, rfl⟩ := List.cons.inj hlines
        have hlater : behind first later.lines number = later := by
          rw [List.nil_append, List.countP_singleton] at hnumber
          rw [behind, ← hnumber]
        refine Or.inl (Option.mem_toList.mpr (Option.map_eq_some_iff.mpr ⟨item, hitem, ?_⟩))
        rw [hlater]
      · obtain ⟨rfl, rfl⟩ := List.cons.inj hlines
        rw [hcount, ← Nat.add_assoc] at hitem
        rw [List.cons_append, hcount, ← Nat.add_assoc] at hnumber
        exact Or.inr (ih.mpr ⟨before, line, rfl, hitem, hnumber⟩)

/-- The number of lines of a stream that a reader has read. -/
def linesRead (stream : Bytes) (reader : Reader) : Nat :=
  (physicalLines stream).length - reader.lines.length

/-- An answer of a reader tells the line of its stream at which the reader is, and so
does an error about a line. -/
structure InStep (stream : Bytes) (answer : Except ReadError Event × Reader) : Prop where
  number : answer.2.number = linesRead stream answer.2
  error : ∀ told, answer.1 = .error (.badLine told) → told = linesRead stream answer.2

variable {stream : Bytes}

theorem linesRead_of_eq {before : List Bytes} {line : Bytes} {reader : Reader}
    (h : physicalLines stream = before ++ line :: reader.lines) :
    linesRead stream reader = before.length + 1 := by
  rw [linesRead, h, List.length_append, List.length_cons]
  omega

/-- As long as every line is UTF-8, a reader counts every line. -/
theorem inStep_of_forall_isText (h : ∀ line ∈ physicalLines stream, isText line = true)
    {answer : Except ReadError Event × Reader} (hanswer : answer ∈ (ofBytes stream).answers) :
    InStep stream answer := by
  obtain ⟨before, line, hlines, hitem, hnumber⟩ := mem_answers_iff.mp hanswer
  have hread := linesRead_of_eq hlines
  have hbefore : before.countP isText = before.length :=
    List.countP_eq_length.mpr fun earlier hearlier => h earlier (by simp [hlines, hearlier])
  have hline : isText line = true := h line (by simp [hlines])
  constructor
  · rw [hnumber, hread, List.countP_append, hbefore, List.countP_singleton, if_pos hline,
      Nat.zero_add]
  · intro told htold
    rw [htold] at hitem
    rw [eq_of_lineItem?_eq_badLine hitem, hread, hbefore, Nat.zero_add]

/-- Behind a line that is not UTF-8 a reader is out of step. -/
theorem exists_not_inStep {line : Bytes} (hline : line ∈ physicalLines stream)
    (h : isText line = false) : ∃ answer ∈ (ofBytes stream).answers, ¬InStep stream answer := by
  obtain ⟨before, after, hlines⟩ := List.append_of_mem hline
  let later : Reader := ⟨after, (before ++ [line]).countP isText⟩
  have hanswer : (.error .notText, later) ∈ (ofBytes stream).answers :=
    mem_answers_iff.mpr
      ⟨before, line, hlines, lineItem?_of_not_isText h _, (Nat.zero_add _).symm⟩
  refine ⟨_, hanswer, fun hstep => ?_⟩
  have hnumber : (before ++ [line]).countP isText = before.length + 1 :=
    hstep.number.trans (linesRead_of_eq hlines)
  have hle : before.countP isText ≤ before.length := List.countP_le_length
  simp only [List.countP_append, List.countP_singleton, h, Bool.false_eq_true, if_false] at hnumber
  omega

/-- A reader answers for each line that is neither blank nor a comment, and counts the
lines that are UTF-8.  So its answers and errors tell the line of the stream at which it
is exactly if every line is UTF-8. -/
theorem inStep_answers_iff (stream : Bytes) :
    (∀ item later, (item, later) ∈ (ofBytes stream).answers ↔
      ∃ before line, physicalLines stream = before ++ line :: later.lines ∧
        lineItem? (before.countP isText + 1) line = some item ∧
        later.number = (before ++ [line]).countP isText) ∧
    ((∀ answer ∈ (ofBytes stream).answers, InStep stream answer) ↔
      ∀ line ∈ physicalLines stream, isText line = true) := by
  constructor
  · intro item later
    have hmem := @mem_answers_iff (physicalLines stream) 0 item later
    simp only [Nat.zero_add] at hmem
    exact hmem
  · constructor
    · intro hstep line hline
      by_contra hnot
      obtain ⟨answer, hanswer, hout⟩ := exists_not_inStep hline (Bool.eq_false_iff.mpr hnot)
      exact hout (hstep answer hanswer)
    · exact fun h answer hanswer => inStep_of_forall_isText h hanswer

/-- One byte that is no UTF-8 puts the numbers of all later lines one short. -/
theorem not_forall_inStep :
    ¬∀ (stream : Bytes), ∀ answer ∈ (ofBytes stream).answers, InStep stream answer := by
  intro h
  let stream : Bytes := 0xFF :: Bytes.newline :: Bytes.ofString "x"
  have hanswer : (.error (.badLine 1), ⟨[], 1⟩) ∈ (ofBytes stream).answers := by decide +kernel
  have hread : linesRead stream ⟨[], 1⟩ = 2 := by decide +kernel
  have htold : 1 = linesRead stream ⟨[], 1⟩ := (h stream _ hanswer).error 1 rfl
  rw [hread] at htold
  exact absurd htold (by decide)

end Reader

end Trace

end TcpJournal
