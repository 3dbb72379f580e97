import TcpJournal.Proofs.Field.Rendering
import TcpJournal.Proofs.Format.Segments

/-!
# Validation of time patterns

A program of the standard vocabulary only writes times under valid patterns: a
pattern comes from brackets, where it has been validated, or it is the default
pattern, which is valid (`Column.isValid_of_compile`).

Validation is weaker than what writing needs.  It lets the directive of the
permissive offset pass, and a flow of an accepted format lacks a text exactly
if one of its patterns holds this directive.
-/

namespace TcpJournal

/-- A column writes no time, or it does so under a valid pattern. -/
def Column.IsValid (column : Column) : Prop :=
  ∀ pattern, column.pattern? = some pattern → pattern.isValid = true

/-- Every column that the keyword stands for is valid, whatever its argument. -/
def Keyword.IsValid (k : Keyword) : Prop :=
  ∀ {argument rest column}, Format.Argument k argument rest column → column.column.IsValid

theorem Column.isValid_of_pattern?_eq_none {column : Column} (h : column.pattern? = none) :
    column.IsValid := by
  intro pattern hpattern
  rw [h] at hpattern
  cases hpattern

namespace Vocabulary

theorem isValid_defaultTimePattern : (TimePattern.ofString defaultTimePattern).isValid = true := by
  cbv

theorem isValid_plainKeyword {name description : String} {column : Column}
    (h : column.pattern? = none) : (plainKeyword name description column).IsValid := by
  intro argument rest c hargument
  cases hargument with
  | plain husage =>
    cases husage
    exact Column.isValid_of_pattern?_eq_none h
  | preset husage | required husage | bracketed husage | default husage => cases husage

/-- A keyword for a time validates its parameter, so only its default has to
be checked. -/
theorem isValid_timeKeyword {name description : String} {rule : ColumnRule}
    (h : ∀ parameter, (rule.column parameter).pattern? = some (.ofString parameter)) :
    (timeKeyword name description rule).IsValid := by
  intro argument rest c hargument pattern hpattern
  cases hargument with
  | plain husage | preset husage | required husage => cases husage
  | bracketed husage _ haccepts =>
    cases husage
    rw [h] at hpattern
    cases hpattern
    exact haccepts
  | default husage =>
    cases husage
    rw [h] at hpattern
    cases hpattern
    exact isValid_defaultTimePattern

/-- A keyword for constant text stands for no time. -/
theorem isValid_textKeyword {name description : String} {usage : Usage}
    (h : (∃ parameter, usage = .preset parameter .text) ∨ usage = .required .text .text) :
    (Keyword.mk name usage description).IsValid := by
  intro argument rest c hargument
  apply Column.isValid_of_pattern?_eq_none
  rcases h with ⟨parameter, rfl⟩ | rfl
  all_goals
    cases hargument with
    | plain husage | preset husage | required husage | bracketed husage | default husage =>
      cases husage <;> rfl

theorem isValid_of_mem_standardKeywords : ∀ k ∈ standardKeywords, k.IsValid := by
  simp only [standardKeywords, List.forall_mem_cons]
  and_intros
  all_goals first
    | exact isValid_plainKeyword rfl
    | exact isValid_timeKeyword fun _ => rfl
    | exact isValid_textKeyword (.inl ⟨_, rfl⟩)
    | exact isValid_textKeyword (.inr rfl)
    | exact List.forall_mem_nil _

theorem mem_insertSorted {k other : Keyword} {keywords : List Keyword}
    (h : k ∈ insertSorted other keywords) : k = other ∨ k ∈ keywords := by
  induction keywords with
  | nil => exact .inl (List.mem_singleton.mp h)
  | cons first rest ih =>
    rw [insertSorted] at h
    split at h
    · rcases List.mem_cons.mp h with rfl | hrest
      · exact .inl rfl
      · exact .inr (List.mem_cons_of_mem _ hrest)
    · split at h
      · exact List.mem_cons.mp h
      · rcases List.mem_cons.mp h with rfl | hrest
        · exact .inr List.mem_cons_self
        · exact (ih hrest).imp_right (List.mem_cons_of_mem _)

/-- A vocabulary holds no keyword that it was not made of. -/
theorem mem_of_mem_ofList {k : Keyword} {keywords : List Keyword}
    (h : k ∈ (ofList keywords).keywords) : k ∈ keywords := by
  induction keywords using List.reverseRecOn with
  | nil => simp [ofList, empty] at h
  | append_singleton keywords last ih =>
    rw [ofList, List.foldl_append] at h
    rcases mem_insertSorted h with rfl | hmem
    · simp
    · exact List.mem_append_left _ (ih hmem)

theorem isValid_of_find?_standard {name : String} {k : Keyword}
    (h : standard.find? name = some k) : k.IsValid :=
  isValid_of_mem_standardKeywords k (mem_of_mem_ofList (List.mem_of_find?_eq_some h))

end Vocabulary

namespace Format

/-- A column among the pieces of a sentence is that of a keyword with its
argument. -/
theorem Sentence.exists_argument {v : Vocabulary} {text : List Char} {ps : List Piece}
    {column : ProgramColumn} (h : Sentence v text ps) (hmem : .column column ∈ ps) :
    ∃ name k argument rest, v.find? name = some k ∧ Argument k argument rest column := by
  induction h with
  | nil => cases hmem
  | character _ _ ih | percent _ ih => exact ih (by simpa using hmem)
  | keyword _ _ hk hargument _ ih =>
    rcases List.mem_cons.mp hmem with heq | hrest
    · cases heq
      exact ⟨_, _, _, _, hk, hargument⟩
    · exact ih hrest

/-- A column of a compiled program is literal text, which is not empty, or that of a
keyword with its argument. -/
theorem exists_argument_of_compile {v : Vocabulary} {format : String} {program : Program}
    (h : compile v format = .ok program) {column : ProgramColumn}
    (hmem : column ∈ program.columns) :
    (∃ text, text ≠ "" ∧ column = .literal text) ∨
      ∃ name k argument rest, v.find? name = some k ∧ Argument k argument rest column := by
  obtain ⟨ps, segments, hsentence, hsegments, hcolumns⟩ := compile_eq_ok_iff.mp h
  rw [hcolumns] at hmem
  obtain ⟨segment, hsegment, rfl⟩ := List.mem_map.mp hmem
  cases segment with
  | literal text =>
    refine .inl ⟨.ofList text, ?_, rfl⟩
    intro hempty
    obtain rfl : text = [] := String.ofList_eq_empty_iff.mp hempty
    exact hsegments.nonempty hsegment
  | keyword column =>
    refine .inr (hsentence.exists_argument ?_)
    rw [← hsegments.pieces]
    exact List.mem_flatMap.mpr ⟨_, hsegment, List.mem_singleton_self _⟩

end Format

/-- The columns of an accepted format write times under valid patterns. -/
theorem Column.isValid_of_compile {format : String} {program : Program}
    (h : Format.compile .standard format = .ok program) {column : ProgramColumn}
    (hmem : column ∈ program.columns) : column.column.IsValid := by
  rcases Format.exists_argument_of_compile h hmem with ⟨text, -, rfl⟩ | ⟨_, _, _, _, hk, hargument⟩
  · exact Column.isValid_of_pattern?_eq_none rfl
  · exact Vocabulary.isValid_of_find?_standard hk hargument

namespace Format

/-- One keyword with its argument is a format. -/
theorem compile_keyword {v : Vocabulary} {k : Keyword} {format : String}
    {name argument : List Char} {column : ProgramColumn}
    (hformat : format.toList = '%' :: (name ++ argument)) (hname : IsName name)
    (hend : EndsName argument) (hk : v.find? (.ofList name) = some k)
    (hargument : Argument k argument [] column) :
    compile v format = .ok ⟨[column]⟩ := by
  rw [← List.append_nil argument] at hend
  have hsentence := Sentence.keyword hname hend hk hargument .nil
  rw [List.append_nil, ← hformat] at hsentence
  exact compile_eq_ok_iff.mpr
    ⟨_, [.keyword _], hsentence, ⟨rfl, by simp, .singleton _⟩, rfl⟩

/-- A keyword without a parameter is a format. -/
theorem compile_plain {v : Vocabulary} {k : Keyword} {column : Column} {format name : String}
    (hformat : format.toList = '%' :: name.toList) (hname : IsName name.toList)
    (hk : v.find? name = some k) (husage : k.usage = .plain column) :
    compile v format = .ok ⟨[⟨k.name, none, column⟩]⟩ := by
  rw [← String.ofList_toList (s := name)] at hk
  rw [← List.append_nil name.toList] at hformat
  refine compile_keyword hformat hname ?_ hk (.plain husage)
  simp [EndsName]

/-- An optional keyword with an accepted parameter in brackets is a format. -/
theorem compile_bracketed {v : Vocabulary} {k : Keyword} {kind : ParameterKind}
    {default : String} {rule : ColumnRule} {format name parameter : String}
    (hformat : format.toList = '%' :: (name.toList ++ ('[' :: parameter.toList ++ [']'])))
    (hname : IsName name.toList) (hk : v.find? name = some k)
    (husage : k.usage = .optional kind default rule)
    (hclose : ']' ∉ parameter.toList) (haccepts : kind.accepts parameter = true) :
    compile v format = .ok ⟨[⟨k.name, some parameter, rule.column parameter⟩]⟩ := by
  rw [← String.ofList_toList (s := name)] at hk
  rw [← String.ofList_toList (s := parameter)] at haccepts
  have hargument : Argument k ('[' :: parameter.toList ++ [']']) [] _ :=
    .bracketed husage hclose haccepts
  have hend : EndsName ('[' :: parameter.toList ++ [']']) := by
    intro c hc
    rw [← Option.some.inj hc]
    decide
  rw [String.ofList_toList] at hargument
  exact compile_keyword hformat hname hend hk hargument

/-- The permissive offset alone is accepted as the pattern of a time. -/
theorem compile_permissiveOffset :
    compile .standard "%time[%#z]" =
      .ok ⟨[⟨"time", some "%#z", .writtenTime (.ofString "%#z")⟩]⟩ := by
  have hname : IsName "time".toList := ⟨by decide, List.all_eq_true.mp rfl⟩
  have hk : Vocabulary.standard.find? "time" =
      some (Vocabulary.timeKeyword "time" "time the record was written" .writtenTime) := by
    cbv
  have haccepts : ParameterKind.timePattern.accepts "%#z" = true := by cbv
  exact compile_bracketed rfl hname hk rfl (by decide) haccepts

theorem holdsPermissiveOffset_permissiveOffset :
    (TimePattern.ofString "%#z").HoldsPermissiveOffset :=
  ⟨[], [], rfl, by cbv⟩

/-- A flow of an accepted format lacks a text, whatever it has observed and
whenever it is written, exactly if the pattern of one of its columns holds the
directive of the permissive offset. -/
theorem render_eq_none_iff_of_compile {format : String} {program : Program}
    (h : compile .standard format = .ok program) (id : Connection) (events : List Event)
    (written : Instant) :
    ((Flow.start id program).observeAll events).render written = none ↔
      ∃ c ∈ program.columns, ∃ pattern,
        c.column.pattern? = some pattern ∧ pattern.HoldsPermissiveOffset := by
  rw [Flow.render_observeAll_eq_none_iff]
  constructor
  · rintro ⟨c, hc, hnone⟩
    obtain ⟨pattern, hpattern, hinvalid | hoffset⟩ :=
      Field.render_observeAll_eq_none_iff.mp hnone
    · rw [Column.isValid_of_compile h hc pattern hpattern] at hinvalid
      cases hinvalid
    · exact ⟨c, hc, pattern, hpattern, hoffset⟩
  · rintro ⟨c, hc, pattern, hpattern, hoffset⟩
    exact ⟨c, hc, Field.render_observeAll_eq_none_iff.mpr ⟨pattern, hpattern, .inr hoffset⟩⟩

/-- The format `%time[%#z]` is accepted, and its flows lack a text at the close. -/
theorem render_eq_none_of_permissiveOffset :
    let id : Connection := ⟨.v4 0x0A000001 40000, .v4 0x0A000002 80⟩
    let program : Program := ⟨[⟨"time", some "%#z", .writtenTime (.ofString "%#z")⟩]⟩
    compile .standard "%time[%#z]" = .ok program ∧
      ((Flow.start id program).observeAll [⟨id, .epoch, .closed []⟩]).render .epoch = none :=
  ⟨compile_permissiveOffset,
    (render_eq_none_iff_of_compile compile_permissiveOffset _ _ _).mpr
      ⟨_, List.mem_singleton_self _, _, rfl, holdsPermissiveOffset_permissiveOffset⟩⟩

/-- Not every accepted format has a text for each of its flows. -/
theorem not_forall_compile_render_ne_none :
    ¬∀ format program, compile .standard format = .ok program →
      ∀ (id : Connection) (events : List Event) (written : Instant),
        ((Flow.start id program).observeAll events).render written ≠ none := by
  intro h
  apply h _ _ compile_permissiveOffset ⟨.v4 0x0A000001 40000, .v4 0x0A000002 80⟩ [] .epoch
  refine Flow.render_observeAll_eq_none_iff.mpr ⟨_, List.mem_singleton_self _, ?_⟩
  exact Field.render_observeAll_eq_none_iff.mpr
    ⟨_, rfl, .inr holdsPermissiveOffset_permissiveOffset⟩

end Format

end TcpJournal
