import Mathlib.Data.List.Chain
import TcpJournal.Proofs.Format.Grammar

/-!
# The programs of format strings

The pieces of a sentence fall into segments: a keyword, or a run of characters
that is as long as it can be.  A program has one column for each segment, in
order.

The main statement compares compilation with the grammar on every format
string and under every vocabulary.  A format string has a program exactly if it
is a sentence, and the program is that of the segments (`compile_eq_ok_iff`).
Otherwise the error is that of the first marker behind which no token can be
read, and everything in front of this marker is a sentence
(`compile_eq_error_iff`).
-/

namespace TcpJournal

namespace Format

/-- A part of a format string that becomes one column. -/
inductive Segment where
  | literal (text : List Char)
  | keyword (column : ProgramColumn)

namespace Segment

/-- The pieces that a segment consists of. -/
def pieces : Segment → List Piece
  | literal text => text.map .character
  | keyword column => [.column column]

/-- The column that a segment becomes. -/
def column : Segment → ProgramColumn
  | literal text => .literal (.ofList text)
  | keyword column => column

/-- The segment is literal text. -/
def IsLiteral : Segment → Prop
  | literal _ => True
  | keyword _ => False

end Segment

/-- The segments of a list of pieces: no literal is empty, and no literal goes
on with another, so that each of them is a maximal run of characters. -/
structure IsSegmentation (ps : List Piece) (segments : List Segment) : Prop where
  pieces : segments.flatMap Segment.pieces = ps
  nonempty : .literal [] ∉ segments
  maximal : segments.IsChain fun a b => ¬(a.IsLiteral ∧ b.IsLiteral)

theorem IsSegmentation.of_cons {segment : Segment} {segments : List Segment}
    {ps : List Piece} (h : IsSegmentation ps (segment :: segments)) :
    IsSegmentation (segments.flatMap Segment.pieces) segments where
  pieces := rfl
  nonempty hmem := h.nonempty (List.mem_cons_of_mem _ hmem)
  maximal := h.maximal.of_cons

theorem fuse_characters (text : List Char) (ps : List Piece) :
    fuse (text.map .character ++ ps) = (text ++ (fuse ps).1, (fuse ps).2) := by
  induction text with
  | nil => rfl
  | cons c text ih => rw [List.map_cons, List.cons_append, fuse, ih, List.cons_append]

/-- The columns of pieces are those of their segments. -/
theorem columnsOf_of_isSegmentation {ps : List Piece} {segments : List Segment}
    (h : IsSegmentation ps segments) :
    columnsOf ps = segments.map Segment.column := by
  induction segments generalizing ps with
  | nil =>
    rw [← h.pieces]
    rfl
  | cons segment segments ih =>
    have hrest := ih h.of_cons
    rw [← h.pieces, List.flatMap_cons, List.map_cons, ← hrest]
    cases segment with
    | keyword column => rfl
    | literal text =>
      have htext : text ≠ [] := by
        rintro rfl
        exact h.nonempty List.mem_cons_self
      -- The next segment is a keyword, so this literal ends where its own text does.
      have hfuse : (fuse (segments.flatMap Segment.pieces)).1 = [] := by
        cases segments with
        | nil => rfl
        | cons next segments =>
          cases next with
          | keyword column => rfl
          | literal later => exact absurd ⟨trivial, trivial⟩ (List.isChain_cons_cons.mp h.maximal).1
      simp [columnsOf, Segment.pieces, Segment.column, fuse_characters, hfuse, withLiteral, htext]

/-- Every list of pieces falls into segments. -/
theorem exists_isSegmentation (ps : List Piece) :
    ∃ segments, IsSegmentation ps segments := by
  induction ps with
  | nil => exact ⟨[], rfl, by simp, .nil⟩
  | cons p ps ih =>
    obtain ⟨segments, h⟩ := ih
    cases p with
    | column column =>
      refine ⟨.keyword column :: segments, ?_, ?_, ?_⟩
      · rw [List.flatMap_cons, h.pieces]
        rfl
      · simpa using h.nonempty
      · exact h.maximal.cons fun _ _ hliteral => hliteral.1
    | character c =>
      -- A character joins a literal behind it, and starts one in front of a keyword.
      by_cases hhead : ∃ text later, segments = .literal text :: later
      · obtain ⟨text, later, rfl⟩ := hhead
        refine ⟨.literal (c :: text) :: later, ?_, ?_, ?_⟩
        · rw [← h.pieces]
          rfl
        · simpa using h.of_cons.nonempty
        · exact h.of_cons.maximal.cons fun next hnext hliteral =>
            (List.isChain_cons.mp h.maximal).1 next hnext hliteral
      · refine ⟨.literal [c] :: segments, ?_, ?_, ?_⟩
        · rw [List.flatMap_cons, h.pieces]
          rfl
        · simpa using h.nonempty
        · refine h.maximal.cons fun next hnext hliteral => ?_
          obtain ⟨later, rfl⟩ := List.head?_eq_some_iff.mp hnext
          cases next with
          | literal text => exact hhead ⟨text, later, rfl⟩
          | keyword column => exact hliteral.2

theorem compile_eq_ok_iff {v : Vocabulary} {format : String} {program : Program} :
    compile v format = .ok program ↔
      ∃ ps segments, Sentence v format.toList ps ∧ IsSegmentation ps segments ∧
        program.columns = segments.map Segment.column := by
  rw [compile, map_eq_ok_iff]
  constructor
  · rintro ⟨ps, hps, rfl⟩
    obtain ⟨segments, hsegments⟩ := exists_isSegmentation ps
    exact ⟨ps, segments, pieces_eq_ok_iff.mp hps, hsegments,
      columnsOf_of_isSegmentation hsegments⟩
  · rintro ⟨ps, segments, hps, hsegments, hcolumns⟩
    refine ⟨ps, pieces_eq_ok_iff.mpr hps, ?_⟩
    rw [columnsOf_of_isSegmentation hsegments, ← hcolumns]

theorem byteCount_eq_length (text : List Char) :
    byteCount text = (Bytes.ofText text).length := by
  induction text with
  | nil => rfl
  | cons c text ih =>
    simp only [byteCount, Bytes.ofText, List.foldr_cons, List.flatMap_cons, List.length_append,
      String.length_utf8EncodeChar] at ih ⊢
    rw [ih]

/-- The offset of a marker is the number of bytes in front of it. -/
theorem offset_of_marker (before after : List Char) :
    byteCount (before ++ after) - byteCount after = (Bytes.ofText before).length := by
  simp [byteCount_eq_length, Bytes.ofText]

theorem compile_eq_error_iff {v : Vocabulary} {format : String} {e : CompileError} :
    compile v format = .error e ↔
      ∃ before after ps, format.toList = before ++ '%' :: after ∧ Sentence v before ps ∧
        Fault v (Bytes.ofText before).length after e := by
  rw [compile, map_eq_error_iff, pieces_eq_error_iff]
  constructor
  · rintro ⟨before, after, ps, htext, hbefore, hfault⟩
    rw [htext, offset_of_marker] at hfault
    exact ⟨before, after, ps, htext, hbefore, hfault⟩
  · rintro ⟨before, after, ps, htext, hbefore, hfault⟩
    rw [← offset_of_marker before ('%' :: after), ← htext] at hfault
    exact ⟨before, after, ps, htext, hbefore, hfault⟩

/-- A format string has the program of its segments if it is a sentence, and
otherwise the error of the first marker that starts no token. -/
theorem compile_grammar (v : Vocabulary) (format : String) :
    (∀ program, compile v format = .ok program ↔
      ∃ ps segments, Sentence v format.toList ps ∧ IsSegmentation ps segments ∧
        program.columns = segments.map Segment.column) ∧
    (∀ e, compile v format = .error e ↔
      ∃ before after ps, format.toList = before ++ '%' :: after ∧ Sentence v before ps ∧
        Fault v (Bytes.ofText before).length after e) :=
  ⟨fun _ => compile_eq_ok_iff, fun _ => compile_eq_error_iff⟩

end Format

end TcpJournal
