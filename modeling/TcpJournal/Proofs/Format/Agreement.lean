import Mathlib.Data.List.Forall2
import TcpJournal.Proofs.Field.Rendering
import TcpJournal.Proofs.Format.Canonical

/-!
# Programs that agree

Two programs agree if they were written alike, that is if keywords and parameters are
equal.  What the columns show is not compared.  Under one vocabulary it need not be: a
keyword and its parameter determine a column (`Format.Argument.eq_of_parameter_eq`).

Literal text is the exception, since it stands under a keyword of its own that a vocabulary
may use for something else.  The main statement (`Format.sameRecords_of_agrees_iff`) is that
programs which agree have the same records exactly under the vocabularies whose keyword of
this name, if there is one, shows its parameter (`Vocabulary.KeepsLiteral`).
-/

namespace TcpJournal

/-! ## The same records -/

/-- Both columns show the same of every connection, whenever they are written. -/
def Column.Alike (a b : Column) : Prop :=
  ∀ (events : List Event) (written : Instant),
    ((Field.start a).observeAll events).render written =
      ((Field.start b).observeAll events).render written

theorem Field.renderAll_eq_of_forall₂ {fields others : List Field} {written : Instant}
    (h : List.Forall₂ (fun f g => f.render written = g.render written) fields others) :
    renderAll fields written = renderAll others written := by
  unfold renderAll
  congr 1
  induction h with
  | nil => rfl
  | cons hfirst _ ih => rw [List.mapM_cons, List.mapM_cons, hfirst, ih]

namespace Program

/-- Flows of both programs have the same records after the same events, or both lack one. -/
def SameRecords (program more : Program) : Prop :=
  ∀ (id : Connection) (events : List Event) (written : Instant),
    ((Flow.start id program).observeAll events).render written =
      ((Flow.start id more).observeAll events).render written

variable {program more : Program}

theorem sameRecords_of_alike
    (h : List.Forall₂ (fun c d => c.column.Alike d.column) program.columns more.columns) :
    program.SameRecords more := by
  intro id events written
  unfold Flow.render
  rw [Flow.fields_observeAll_start, Flow.fields_observeAll_start]
  apply Field.renderAll_eq_of_forall₂
  rw [List.forall₂_map_left_iff, List.forall₂_map_right_iff]
  exact h.imp fun _ _ halike => halike events written

/-- The record of one column is what this column shows. -/
theorem render_singleton (c : ProgramColumn) (id : Connection) (events : List Event)
    (written : Instant) :
    ((Flow.start id ⟨[c]⟩).observeAll events).render written =
      ((Field.start c.column).observeAll events).render written := by
  rw [Flow.render, Flow.fields_observeAll_start]
  cases hrender : ((Field.start c.column).observeAll events).render written <;>
    simp [Field.renderAll, hrender]

theorem SameRecords.alike {c d : ProgramColumn} (h : SameRecords ⟨[c]⟩ ⟨[d]⟩) :
    c.column.Alike d.column := by
  intro events written
  rw [← render_singleton c ⟨.v4 0 0, .v4 0 0⟩, ← render_singleton d ⟨.v4 0 0, .v4 0 0⟩]
  exact h _ events written

theorem agrees_iff :
    program.agrees more = true ↔
      List.Forall₂ (fun c d => c.keyword = d.keyword ∧ c.parameter = d.parameter)
        program.columns more.columns := by
  simp [agrees, ProgramColumn.agrees, List.forall₂_iff_zip]

end Program

/-! ## Columns of one vocabulary -/

namespace Format

section Argument

variable {k : Keyword} {argument rest : List Char} {c : ProgramColumn}

theorem Argument.columnOf_parameter (h : Argument k argument rest c) :
    k.columnOf (c.parameter.getD "") = c := by
  cases h with
  | plain husage | preset husage | required husage | bracketed husage | default husage =>
    simp [Keyword.columnOf, husage]

theorem Argument.keyword_eq (h : Argument k argument rest c) : c.keyword = k.name := by
  rw [← h.columnOf_parameter, Keyword.keyword_columnOf]

/-- A keyword and its parameter determine the column, however they are written. -/
theorem Argument.eq_of_parameter_eq (h : Argument k argument rest c)
    {other after : List Char} {d : ProgramColumn} (hother : Argument k other after d)
    (heq : c.parameter = d.parameter) : c = d := by
  rw [← h.columnOf_parameter, ← hother.columnOf_parameter, heq]

/-- An argument goes on with no name. -/
theorem Argument.endsName (h : Argument k argument rest c) : EndsName argument := by
  cases h with
  | plain | preset | default => simp [EndsName]
  | required | bracketed =>
    intro c hc
    obtain rfl := Option.some.inj hc
    decide

end Argument

end Format

/-- What the vocabulary builds under the keyword of literal text shows its parameter, as
literal text does, as long as the parameter is not empty. -/
def Vocabulary.KeepsLiteral (v : Vocabulary) : Prop :=
  ∀ (k : Keyword) (argument rest : List Char) (text : String) (column : Column),
    v.find? ProgramColumn.literalKeyword = some k →
      Format.Argument k argument rest ⟨ProgramColumn.literalKeyword, some text, column⟩ →
      text ≠ "" → column.Alike (.text text)

theorem Vocabulary.keepsLiteral_of_find?_eq_none {v : Vocabulary}
    (h : v.find? ProgramColumn.literalKeyword = none) : v.KeepsLiteral := by
  intro k argument rest text column hk
  rw [h] at hk
  cases hk

theorem Vocabulary.keepsLiteral_standard : standard.KeepsLiteral :=
  keepsLiteral_of_find?_eq_none (Format.find?_literalKeyword regular_standard)

/-- The columns of accepted formats: literal text that is not empty, and what the keyword
of a name stands for with an argument. -/
inductive Vocabulary.Builds (v : Vocabulary) : ProgramColumn → Prop
  | literal {text : String} (h : text ≠ "") : v.Builds (.literal text)
  | keyword {k : Keyword} {argument rest : List Char} {c : ProgramColumn}
      (hk : v.find? c.keyword = some k) (h : Format.Argument k argument rest c) : v.Builds c

namespace Format

variable {v : Vocabulary}

theorem builds_of_compile {format : String} {program : Program}
    (h : compile v format = .ok program) {c : ProgramColumn} (hc : c ∈ program.columns) :
    v.Builds c := by
  obtain ⟨text, htext, rfl⟩ | ⟨name, k, argument, rest, hk, hargument⟩ :=
    exists_argument_of_compile h hc
  · exact .literal htext
  · have hname : k.name = name := by simpa using List.find?_some hk
    rw [← hname, ← hargument.keyword_eq] at hk
    exact .keyword hk hargument

/-- Columns of one vocabulary that were written alike show the same. -/
theorem alike_of_builds (hv : v.KeepsLiteral) {c d : ProgramColumn} (hc : v.Builds c)
    (hd : v.Builds d) (hkeyword : c.keyword = d.keyword) (hparameter : c.parameter = d.parameter) :
    c.column.Alike d.column := by
  obtain ⟨keyword, parameter, shown⟩ := c
  obtain ⟨keyword, parameter, other⟩ := d
  obtain rfl : _ = keyword := hkeyword
  obtain rfl : _ = parameter := hparameter
  cases hc with
  | literal htext =>
    cases hd with
    | literal => exact fun _ _ => rfl
    | keyword hk hargument =>
      exact fun events written => (hv _ _ _ _ _ hk hargument htext events written).symm
  | keyword hk hargument =>
    cases hd with
    | literal htext => exact hv _ _ _ _ _ hk hargument htext
    | keyword hk' hargument' =>
      obtain rfl := Option.some.inj (hk.symm.trans hk')
      obtain ⟨-, -, rfl⟩ := hargument.eq_of_parameter_eq hargument' rfl
      exact fun _ _ => rfl

theorem sameRecords_of_compile (hv : v.KeepsLiteral) {format other : String}
    {program more : Program} (h : compile v format = .ok program)
    (hmore : compile v other = .ok more) (hagrees : program.agrees more = true) :
    program.SameRecords more := by
  rw [Program.agrees_iff, List.forall₂_iff_zip] at hagrees
  apply Program.sameRecords_of_alike
  rw [List.forall₂_iff_zip]
  refine ⟨hagrees.1, fun {c d} hmem => ?_⟩
  obtain ⟨hc, hd⟩ := List.of_mem_zip hmem
  obtain ⟨hkeyword, hparameter⟩ := hagrees.2 hmem
  exact alike_of_builds hv (builds_of_compile h hc) (builds_of_compile hmore hd) hkeyword hparameter

/-! ## Literal text and a keyword of its name -/

/-- Text with doubled percent signs is a format of literal text. -/
theorem compile_doubled (v : Vocabulary) {text : List Char} (h : text ≠ []) :
    compile v (.ofList (doubled text)) = .ok ⟨[.literal (.ofList text)]⟩ := by
  have hnil : Sentence v [] [] := .nil
  have hsentence : Sentence v (doubled text) (text.map .character) := by
    simpa using hnil.doubled_append text
  have hsegments : IsSegmentation (text.map .character) [.literal text] :=
    ⟨List.flatMap_singleton .., by simpa using h.symm, .singleton _⟩
  refine compile_eq_ok_iff.mpr ⟨_, _, ?_, hsegments, rfl⟩
  rwa [String.toList_ofList]

/-- Every column that the keyword of literal text stands for has a format. -/
theorem exists_compile_of_argument {k : Keyword} {argument rest : List Char} {c : ProgramColumn}
    (hk : v.find? ProgramColumn.literalKeyword = some k) (h : Argument k argument rest c) :
    ∃ format, compile v format = .ok ⟨[c]⟩ := by
  refine ⟨.ofList ('%' :: (ProgramColumn.literalKeyword.toList ++ argument)), ?_⟩
  have hname : IsName ProgramColumn.literalKeyword.toList := by decide
  rw [← String.ofList_toList (s := ProgramColumn.literalKeyword)] at hk
  exact compile_keyword (String.toList_ofList ..) hname h.endsName hk (h.of_head? nofun)

/-- Programs that agree have the same records, exactly under those vocabularies that keep
literal text. -/
theorem sameRecords_of_agrees_iff (v : Vocabulary) :
    (∀ (format other : String) (program more : Program),
      compile v format = .ok program → compile v other = .ok more →
        program.agrees more = true → program.SameRecords more) ↔ v.KeepsLiteral := by
  constructor
  · intro h k argument rest text column hk hargument htext
    obtain ⟨format, hformat⟩ := exists_compile_of_argument hk hargument
    have hnonempty : text.toList ≠ [] := mt String.toList_eq_nil_iff.mp htext
    have hother := compile_doubled v hnonempty
    rw [String.ofList_toList] at hother
    have hagrees : Program.agrees ⟨[⟨ProgramColumn.literalKeyword, some text, column⟩]⟩
        ⟨[.literal text]⟩ = true :=
      Program.agrees_iff.mpr (.cons ⟨rfl, rfl⟩ .nil)
    exact (h _ _ _ _ hformat hother hagrees).alike
  · intro hv format other program more
    exact sameRecords_of_compile hv

/-- A keyword for times in the place of literal text: the formats `%literal(%Y)` and `%%Y`
have programs that agree, and their records are the year and the pattern. -/
theorem not_forall_sameRecords :
    ¬∀ (v : Vocabulary) (format other : String) (program more : Program),
      compile v format = .ok program → compile v other = .ok more →
        program.agrees more = true → program.SameRecords more := by
  intro h
  let v := Vocabulary.ofList [⟨"literal", .required .text .writtenTime, "custom"⟩]
  have hsame := h v "%literal(%Y)" "%%Y" ⟨[⟨"literal", some "%Y", .writtenTime (.ofString "%Y")⟩]⟩
    ⟨[.literal "%Y"]⟩ (by decide +kernel) (by decide +kernel) (by decide)
  have hfirst := hsame ⟨.v4 0 0, .v4 0 0⟩ [] .epoch
  revert hfirst
  decide +kernel

end Format

end TcpJournal
