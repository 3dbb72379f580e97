import TcpJournal.Proofs.Bytes.Encoding
import TcpJournal.Proofs.Format.Canonical

/-!
# Format strings put together

A format string in front of another one means its own columns and then those of the other,
and literal text that meets literal text is one column with it.  An error of the other
stays the same, with its offset moved by the bytes in front.

There is one exception: a keyword name at the end of the first string goes on with name
characters of the second, and a bracket there opens an argument of the keyword
(`Format.GoesOn`).

On the grammar this is short, since sentences can be put together (`Format.Sentence.append`),
and so can their segments.  The main statement (`Format.compile_append_standard`) is about
compilation under the standard vocabulary.
-/

namespace TcpJournal

namespace ProgramColumn

/-- The column is a run of literal text. -/
def isLiteral (c : ProgramColumn) : Bool :=
  c.keyword = literalKeyword

/-- The parameter of the column as a text. -/
def parameterText (c : ProgramColumn) : String :=
  c.parameter.getD ""

end ProgramColumn

namespace Program

/-- The columns of a program and then those of another.  Literal text at the seam is one
column. -/
def join (program more : Program) : Program :=
  match program.columns.getLast?, more.columns with
  | some last, first :: rest =>
    if last.isLiteral && first.isLiteral then
      ⟨program.columns.dropLast ++
        .literal (last.parameterText ++ first.parameterText) :: rest⟩
    else ⟨program.columns ++ more.columns⟩
  | _, _ => ⟨program.columns ++ more.columns⟩

theorem join_of_literal {program more : Program} {columns rest : List ProgramColumn}
    {before after : String} (h : program.columns = columns ++ [.literal before])
    (hmore : more.columns = .literal after :: rest) :
    program.join more = ⟨columns ++ .literal (before ++ after) :: rest⟩ := by
  simp [join, h, hmore, ProgramColumn.isLiteral, ProgramColumn.parameterText,
    ProgramColumn.literal]

theorem join_of_apart {program more : Program}
    (h : ∀ last ∈ program.columns.getLast?, ∀ first ∈ more.columns.head?,
      ¬(last.isLiteral = true ∧ first.isLiteral = true)) :
    program.join more = ⟨program.columns ++ more.columns⟩ := by
  unfold join
  split
  · next last first rest hlast hfirst =>
    rw [if_neg, hfirst]
    have hapart := h last hlast first (by rw [hfirst]; rfl)
    simpa using hapart
  · rfl

end Program

namespace CompileError

/-- The error at an offset that lies so many bytes further on. -/
def shift (bytes : Nat) : CompileError → CompileError
  | namelessKeyword offset => namelessKeyword (bytes + offset)
  | e => e

end CompileError

namespace Format

/-- The keyword at the end of a format string would go on in the next one, with more
characters of its name or with an argument in brackets. -/
structure GoesOn (program : Program) (format later : String) : Prop where
  keyword : ∃ c ∈ program.columns.getLast?, c.isLiteral = false
  name : ∃ c ∈ format.toList.getLast?, isNameChar c = true
  next : ∃ c ∈ later.toList.head?, isNameChar c = true ∨ c = '['

/-! ## Sentences and segments put together -/

section

variable {v : Vocabulary}

/-- Sentences can be put together unless the first ends in a name that goes on. -/
theorem Sentence.append {text later : List Char} {ps qs : List Piece} (h : Sentence v text ps)
    (hmore : Sentence v later qs) (hlater : EndsInName text ps → EndsToken later) :
    Sentence v (text ++ later) (ps ++ qs) := by
  have hread : pieces v 0 (text ++ later) = .ok (ps ++ qs) := by
    rw [pieces_append 0 h hlater, pieces_eq_ok_iff.mpr hmore]
    rfl
  exact pieces_eq_ok_iff.mp hread

theorem ArgumentFault.shift_eq {k : Keyword} {rest : List Char} {e : CompileError}
    (h : ArgumentFault k rest e) (bytes : Nat) : e.shift bytes = e := by
  cases h <;> rfl

/-- A fault behind more text is the same one, at another offset. -/
theorem Fault.shift {offset : Nat} {rest : List Char} {e : CompileError}
    (h : Fault v offset rest e) (bytes : Nat) : Fault v (bytes + offset) rest (e.shift bytes) := by
  cases h with
  | nameless hmarker hend => exact .nameless hmarker hend
  | unknown hname hend hk => exact .unknown hname hend hk
  | argument hname hend hk h =>
    rw [h.shift_eq]
    exact .argument hname hend hk h

end

section IsSegmentation

variable {ps qs : List Piece} {segments others : List Segment}

/-- A last piece that is a column is a segment of its own. -/
theorem IsSegmentation.keyword_mem_getLast? (h : IsSegmentation ps segments)
    {column : ProgramColumn} (hlast : .column column ∈ ps.getLast?) :
    .keyword column ∈ segments.getLast? := by
  cases segments using List.reverseRecOn with
  | nil =>
    rw [← h.pieces] at hlast
    cases hlast
  | append_singleton segments last =>
    rw [List.getLast?_concat]
    rw [← h.pieces, List.flatMap_append, List.flatMap_singleton] at hlast
    cases last with
    | keyword other =>
      rw [Segment.pieces, List.getLast?_concat] at hlast
      cases hlast
      rfl
    | literal text =>
      have htext : text ≠ [] := by
        rintro rfl
        exact h.nonempty (by simp)
      rw [Segment.pieces, List.getLast?_append_of_ne_nil _ (by simpa using htext),
        List.getLast?_map] at hlast
      simp at hlast

theorem IsSegmentation.append (h : IsSegmentation ps segments) (hmore : IsSegmentation qs others)
    (hapart : ∀ a ∈ segments.getLast?, ∀ b ∈ others.head?, ¬(a.IsLiteral ∧ b.IsLiteral)) :
    IsSegmentation (ps ++ qs) (segments ++ others) where
  pieces := by rw [List.flatMap_append, h.pieces, hmore.pieces]
  nonempty := by simp [h.nonempty, hmore.nonempty]
  maximal := List.isChain_append.mpr ⟨h.maximal, hmore.maximal, hapart⟩

/-- Literal segments that meet are one segment. -/
theorem IsSegmentation.append_literal {before after : List Char}
    (h : IsSegmentation ps (segments ++ [.literal before]))
    (hmore : IsSegmentation qs (.literal after :: others)) :
    IsSegmentation (ps ++ qs) (segments ++ .literal (before ++ after) :: others) where
  pieces := by
    rw [← h.pieces, ← hmore.pieces]
    simp [Segment.pieces]
  nonempty := by
    have hbefore := h.nonempty
    have hafter := hmore.nonempty
    simp_all
  maximal := by
    obtain ⟨hsegments, -, hlast⟩ := List.isChain_append.mp h.maximal
    obtain ⟨hfirst, hrest⟩ := List.isChain_cons.mp hmore.maximal
    refine List.isChain_append.mpr ⟨hsegments, List.isChain_cons.mpr ⟨hfirst, hrest⟩, ?_⟩
    rintro a ha b ⟨⟩
    exact hlast a ha (.literal before) rfl

/-- The segments of two lists of pieces, with literals at the seam put together, become the
columns of both programs. -/
theorem IsSegmentation.exists_join (h : IsSegmentation ps segments)
    (hmore : IsSegmentation qs others)
    (hkeyword : ∀ c, .keyword c ∈ segments → c.keyword ≠ ProgramColumn.literalKeyword)
    (hother : ∀ c, .keyword c ∈ others → c.keyword ≠ ProgramColumn.literalKeyword)
    {program more : Program} (hcolumns : program.columns = segments.map Segment.column)
    (hmoreColumns : more.columns = others.map Segment.column) :
    ∃ joined, IsSegmentation (ps ++ qs) joined ∧
      (program.join more).columns = joined.map Segment.column := by
  by_cases hmeet : ∃ front before after back,
      segments = front ++ [.literal before] ∧ others = .literal after :: back
  · obtain ⟨front, before, after, back, rfl, rfl⟩ := hmeet
    refine ⟨_, h.append_literal hmore, ?_⟩
    rw [List.map_append] at hcolumns
    rw [Program.join_of_literal hcolumns hmoreColumns]
    simp [Segment.column, String.ofList_append]
  · have hapart : ∀ a ∈ segments.getLast?, ∀ b ∈ others.head?, ¬(a.IsLiteral ∧ b.IsLiteral) := by
      rintro a ha b hb ⟨hlast, hfirst⟩
      obtain ⟨front, rfl⟩ := List.getLast?_eq_some_iff.mp ha
      obtain ⟨back, rfl⟩ := List.head?_eq_some_iff.mp hb
      cases a with
      | keyword => exact hlast
      | literal before =>
        cases b with
        | keyword => exact hfirst
        | literal after => exact hmeet ⟨front, before, after, back, rfl, rfl⟩
    refine ⟨_, h.append hmore hapart, ?_⟩
    rw [Program.join_of_apart, List.map_append, hcolumns, hmoreColumns]
    -- Columns that are literal come from segments that are.
    intro last hlast first hfirst hliteral
    rw [hcolumns, List.getLast?_map] at hlast
    rw [hmoreColumns, List.head?_map] at hfirst
    obtain ⟨a, ha, rfl⟩ := Option.map_eq_some_iff.mp hlast
    obtain ⟨b, hb, rfl⟩ := Option.map_eq_some_iff.mp hfirst
    have hbefore : a.IsLiteral :=
      isLiteral_of_keyword_eq hkeyword (List.mem_of_getLast? ha) (of_decide_eq_true hliteral.1)
    have hafter : b.IsLiteral :=
      isLiteral_of_keyword_eq hother (List.mem_of_head? hb) (of_decide_eq_true hliteral.2)
    exact hapart a ha b hb ⟨hbefore, hafter⟩

end IsSegmentation

/-! ## Compilation -/

section

variable {v : Vocabulary} (hv : v.Regular) {format later : String} {program more : Program}

include hv

/-- A sentence that ends in a name has a keyword in its last column. -/
theorem endsToken_of_not_goesOn {ps : List Piece} {segments : List Segment}
    (h : Sentence v format.toList ps) (hsegments : IsSegmentation ps segments)
    (hcolumns : program.columns = segments.map Segment.column)
    (hstops : ¬GoesOn program format later) (hends : EndsInName format.toList ps) :
    EndsToken later.toList := by
  obtain ⟨column, hlast⟩ := hends.column
  have hsegment := hsegments.keyword_mem_getLast? hlast
  have hne := keyword_ne_literalKeyword hv h hsegments (List.mem_of_getLast? hsegment)
  have hkeyword : ∃ c ∈ program.columns.getLast?, c.isLiteral = false := by
    refine ⟨column, ?_, decide_eq_false hne⟩
    rw [hcolumns, List.getLast?_map, Option.mem_def.mp hsegment]
    rfl
  constructor
  · intro c hc
    by_contra hname
    exact hstops ⟨hkeyword, hends.name, c, hc, Or.inl (by simpa using hname)⟩
  · intro hopen
    exact hstops ⟨hkeyword, hends.name, '[', hopen, Or.inr rfl⟩

theorem compile_append_of_ok (h : compile v format = .ok program)
    (hstops : ¬GoesOn program format later) (hmore : compile v later = .ok more) :
    compile v (format ++ later) = .ok (program.join more) := by
  obtain ⟨ps, segments, hsentence, hsegments, hcolumns⟩ := compile_eq_ok_iff.mp h
  obtain ⟨qs, others, hlater, hothers, hmoreColumns⟩ := compile_eq_ok_iff.mp hmore
  obtain ⟨joined, hjoined, hjoin⟩ := hsegments.exists_join hothers
    (fun _ => keyword_ne_literalKeyword hv hsentence hsegments)
    (fun _ => keyword_ne_literalKeyword hv hlater hothers) hcolumns hmoreColumns
  refine compile_eq_ok_iff.mpr ⟨ps ++ qs, joined, ?_, hjoined, hjoin⟩
  rw [String.toList_append]
  exact hsentence.append hlater (endsToken_of_not_goesOn hv hsentence hsegments hcolumns hstops)

theorem compile_append_of_error (h : compile v format = .ok program)
    (hstops : ¬GoesOn program format later) {e : CompileError}
    (hmore : compile v later = .error e) :
    compile v (format ++ later) = .error (e.shift (Bytes.ofString format).length) := by
  obtain ⟨ps, segments, hsentence, hsegments, hcolumns⟩ := compile_eq_ok_iff.mp h
  obtain ⟨before, after, qs, htext, hbefore, hfault⟩ := compile_eq_error_iff.mp hmore
  have hends : EndsInName format.toList ps → EndsToken before := by
    intro hends
    have hlater := endsToken_of_not_goesOn hv hsentence hsegments hcolumns hstops hends
    rw [htext] at hlater
    exact hlater.of_append
  refine compile_eq_error_iff.mpr
    ⟨format.toList ++ before, after, ps ++ qs, ?_, hsentence.append hbefore hends, ?_⟩
  · rw [String.toList_append, htext, List.append_assoc]
  · rw [Bytes.ofText_append, List.length_append]
    exact hfault.shift _

end

/-- An accepted format string in front of another one, whose start does not go on with a
keyword at the end of the first.  Together they mean the columns of both, where literal text
that meets literal text is one column, and they have the error of the second, where an
offset grows by the number of bytes in front. -/
theorem compile_append_standard {format later : String} {program : Program}
    (h : compile .standard format = .ok program) (hstops : ¬GoesOn program format later) :
    compile .standard (format ++ later) =
      match compile .standard later with
      | .ok more => .ok (program.join more)
      | .error e => .error (e.shift (Bytes.ofString format).length) := by
  have hv := Vocabulary.regular_standard
  cases hmore : compile .standard later with
  | ok more => exact compile_append_of_ok hv h hstops hmore
  | error e => exact compile_append_of_error hv h hstops hmore

/-- The format `é%%` ends in literal text, so nothing behind it goes on with a keyword. -/
theorem compile_append_of_doubled_marker :
    let program : Program := ⟨[.literal "é%"]⟩
    compile .standard "é%%" = .ok program ∧
      compile .standard ("é%%" ++ "%%x%status") =
        .ok ⟨[.literal "é%%x", ⟨"status", none, .status⟩]⟩ ∧
      compile .standard ("é%%" ++ "x% ") = .error (.namelessKeyword 5) := by
  intro program
  have hcompile : compile .standard "é%%" = .ok program := by decide +kernel
  have hstops : ∀ later, ¬GoesOn program "é%%" later := by
    rintro later ⟨⟨c, hlast, hkeyword⟩, -, -⟩
    obtain rfl := Option.some.inj hlast
    cases hkeyword
  refine ⟨hcompile, ?_, ?_⟩
  · rw [compile_append_standard hcompile (hstops _)]
    decide +kernel
  · rw [compile_append_standard hcompile (hstops _)]
    decide +kernel

/-- A name that goes on is another name. -/
example : compile .standard ("%time" ++ "s") = .error (.unknownName "times") := by
  decide +kernel

end Format

end TcpJournal
