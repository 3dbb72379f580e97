import TcpJournal.Proofs.Format.Vocabulary

/-!
# Canonical format strings

Every program can be written as a format string again: percent signs of literal
text are doubled, and every keyword that takes a parameter is written with it,
even where the parameter is its default.

`Format.Spellable` tells which lists of columns format strings stand for.  These
are the programs of accepted formats, and each of them is the program of its
canonical format string (`Format.compile_canonical_standard`).
-/

namespace TcpJournal

namespace Keyword

/-- The column of a keyword with a parameter.  A keyword that takes none has a
column of its own. -/
def columnOf (k : Keyword) (parameter : String) : ProgramColumn :=
  match k.usage with
  | .plain column => ⟨k.name, none, column⟩
  | .preset own rule => ⟨k.name, some own, rule.column own⟩
  | .required _ rule | .optional _ _ rule => ⟨k.name, some parameter, rule.column parameter⟩

/-- A parameter behind the name of a keyword, written out. -/
def argument (k : Keyword) (parameter : String) : List Char :=
  match k.usage with
  | .plain _ | .preset .. => []
  | .required .. => '(' :: parameter.toList ++ [')']
  | .optional .. => '[' :: parameter.toList ++ [']']

/-- The keyword accepts the parameter, and its closing delimiter does not occur
there. -/
def Takes (k : Keyword) (parameter : String) : Prop :=
  match k.usage with
  | .plain _ | .preset .. => True
  | .required kind _ => ')' ∉ parameter.toList ∧ kind.accepts parameter = true
  | .optional kind _ _ => ']' ∉ parameter.toList ∧ kind.accepts parameter = true

/-- Nothing is written behind the name of the keyword. -/
def isBare (k : Keyword) : Bool :=
  match k.usage with
  | .plain _ | .preset .. => true
  | .required .. | .optional .. => false

@[simp]
theorem keyword_columnOf (k : Keyword) (parameter : String) :
    (k.columnOf parameter).keyword = k.name := by
  unfold columnOf
  split <;> rfl

/-- Whether a keyword takes its parameter is seen from the column. -/
theorem Takes.of_columnOf_eq {k : Keyword} {parameter other : String} (h : k.Takes parameter)
    (heq : k.columnOf parameter = k.columnOf other) : k.Takes other := by
  cases husage : k.usage with
  | plain column | preset own rule => simp [Takes, husage]
  | required kind rule | optional kind default rule =>
    simp only [columnOf, husage, ProgramColumn.mk.injEq, Option.some.injEq] at heq
    rwa [← heq.2.1]

/-- A parameter that the keyword takes can be written as its argument. -/
theorem argument_of_takes {k : Keyword} {parameter : String} (h : k.Takes parameter)
    (rest : List Char) :
    Format.Argument k (k.argument parameter) rest (k.columnOf parameter) := by
  cases husage : k.usage with
  | plain column =>
    simp only [argument, columnOf, husage]
    exact .plain husage
  | preset own rule =>
    simp only [argument, columnOf, husage]
    exact .preset husage
  | required kind rule =>
    simp only [Takes, argument, columnOf, husage] at h ⊢
    rw [← String.ofList_toList (s := parameter)] at h ⊢
    rw [String.toList_ofList] at h ⊢
    exact .required husage h.1 h.2
  | optional kind default rule =>
    simp only [Takes, argument, columnOf, husage] at h ⊢
    rw [← String.ofList_toList (s := parameter)] at h ⊢
    rw [String.toList_ofList] at h ⊢
    exact .bracketed husage h.1 h.2

/-- The argument of a regular keyword gives it a parameter that it takes. -/
theorem IsRegular.exists_takes {k : Keyword} (hk : k.IsRegular) {argument rest : List Char}
    {column : ProgramColumn} (h : Format.Argument k argument rest column) :
    ∃ parameter, k.Takes parameter ∧ column = k.columnOf parameter := by
  cases h with
  | plain husage => exact ⟨"", by simp [Takes, columnOf, husage]⟩
  | preset husage => exact ⟨"", by simp [Takes, columnOf, husage]⟩
  | @required kind rule text _ husage hclose haccepts =>
    exact ⟨.ofList text, by simp [Takes, columnOf, husage, hclose, haccepts]⟩
  | @bracketed kind default rule text _ husage hclose haccepts =>
    exact ⟨.ofList text, by simp [Takes, columnOf, husage, hclose, haccepts]⟩
  | @default kind parameter rule _ husage hopen =>
    obtain ⟨hclose, haccepts⟩ := hk.default kind parameter rule husage
    exact ⟨parameter, by simp [Takes, columnOf, husage, hclose, haccepts]⟩

/-- Behind a bare name there is no argument. -/
theorem argument_eq_nil_of_isBare {k : Keyword} (hbare : k.isBare = true)
    {argument rest : List Char} {column : ProgramColumn}
    (h : Format.Argument k argument rest column) : argument = [] := by
  cases h with
  | plain husage | preset husage | default husage => rfl
  | required husage | bracketed husage => simp [isBare, husage] at hbare

/-- An argument that is written goes on with no name. -/
theorem endsName_argument_append {k : Keyword} (parameter : String) {rest : List Char}
    (h : k.isBare = true → Format.EndsName rest) :
    Format.EndsName (k.argument parameter ++ rest) := by
  cases husage : k.usage with
  | plain column | preset own rule =>
    simp only [argument, husage, List.nil_append]
    exact h (by simp [isBare, husage])
  | required kind rule | optional kind default rule =>
    intro c hc
    simp only [argument, husage, List.cons_append, List.head?_cons] at hc
    rw [← Option.some.inj hc]
    decide

end Keyword

/-- The columns that a vocabulary can build: literal text, and the columns of
its keywords. -/
inductive Vocabulary.HasColumn (v : Vocabulary) : ProgramColumn → Prop
  | literal (text : String) : v.HasColumn (.literal text)
  | keyword {k : Keyword} (hk : k ∈ v.keywords) (parameter : String) :
      v.HasColumn (k.columnOf parameter)

/-- The column of a keyword behind whose name nothing is written. -/
def Vocabulary.IsBare (v : Vocabulary) (c : ProgramColumn) : Prop :=
  ∃ k ∈ v.keywords, k.name = c.keyword ∧ k.isBare = true

namespace Format

/-- Literal text with each percent sign doubled. -/
def doubled (text : List Char) : List Char :=
  text.flatMap fun c => if c = '%' then ['%', '%'] else [c]

/-- A column as it is written in a format string. -/
def spelling (v : Vocabulary) (c : ProgramColumn) : List Char :=
  let parameter := c.parameter.getD ""
  match v.find? c.keyword with
  | some k => '%' :: (k.name.toList ++ k.argument parameter)
  | none => doubled parameter.toList

/-- The format string that spells out every column of a program. -/
def canonical (v : Vocabulary) (program : Program) : String :=
  .ofList (program.columns.flatMap (spelling v))

/-- The lists of columns for which there is a format string. -/
structure Spellable (v : Vocabulary) (columns : List ProgramColumn) : Prop where
  /-- Each column is one that the vocabulary can build. -/
  hasColumn : ∀ c ∈ columns, v.HasColumn c
  /-- No literal text is empty. -/
  nonempty : .literal "" ∉ columns
  /-- No literal text goes on with another. -/
  apart : columns.IsChain fun a b =>
    ¬(a.keyword = ProgramColumn.literalKeyword ∧ b.keyword = ProgramColumn.literalKeyword)
  /-- Each keyword takes its parameter. -/
  takes : ∀ k ∈ v.keywords, ∀ parameter, k.columnOf parameter ∈ columns → k.Takes parameter
  /-- No bare name goes on with literal text. -/
  delimited : columns.IsChain fun a b =>
    v.IsBare a → ∀ text, b = .literal text → EndsName text.toList

/-- Columns that can be spelled stay so without the first one. -/
theorem Spellable.of_cons {v : Vocabulary} {c : ProgramColumn}
    {columns : List ProgramColumn} (h : Spellable v (c :: columns)) : Spellable v columns where
  hasColumn c hc := h.hasColumn c (List.mem_cons_of_mem _ hc)
  nonempty hmem := h.nonempty (List.mem_cons_of_mem _ hmem)
  apart := h.apart.of_cons
  takes k hk parameter hmem := h.takes k hk parameter (List.mem_cons_of_mem _ hmem)
  delimited := h.delimited.of_cons

section

variable {v : Vocabulary} (hv : v.Regular)

include hv

/-! ## Spelling -/

theorem find?_name {k : Keyword} (hk : k ∈ v.keywords) : v.find? k.name = some k :=
  hv.sorted.find?_eq_some_iff.mpr ⟨hk, rfl⟩

theorem find?_literalKeyword : v.find? ProgramColumn.literalKeyword = none := by
  rw [Option.eq_none_iff_forall_ne_some]
  intro k hfind
  obtain ⟨hk, hname⟩ := hv.sorted.find?_eq_some_iff.mp hfind
  exact (hv.keywords k hk).ne_literal hname

theorem spelling_literal (text : String) :
    spelling v (.literal text) = doubled text.toList := by
  simp [spelling, ProgramColumn.literal, find?_literalKeyword hv]

theorem spelling_columnOf {k : Keyword} (hk : k ∈ v.keywords) (parameter : String) :
    spelling v (k.columnOf parameter) = '%' :: (k.name.toList ++ k.argument parameter) := by
  simp only [spelling, Keyword.keyword_columnOf, find?_name hv hk]
  cases husage : k.usage <;> simp [Keyword.argument, Keyword.columnOf, husage]

theorem columnOf_ne_literal {k : Keyword} (hk : k ∈ v.keywords) (parameter text : String) :
    k.columnOf parameter ≠ .literal text := by
  intro h
  apply (hv.keywords k hk).ne_literal
  rw [← Keyword.keyword_columnOf k parameter, h]
  rfl

theorem isBare_columnOf_iff {k : Keyword} (hk : k ∈ v.keywords) (parameter : String) :
    v.IsBare (k.columnOf parameter) ↔ k.isBare = true := by
  constructor
  · rintro ⟨other, hother, hname, hbare⟩
    rw [Keyword.keyword_columnOf] at hname
    rwa [← hv.sorted.eq_of_name_eq hother hk hname]
  · intro hbare
    exact ⟨k, hk, (Keyword.keyword_columnOf k parameter).symm, hbare⟩

end

/-! ## From columns to a sentence -/

theorem Sentence.doubled_append {v : Vocabulary} {rest : List Char} {ps : List Piece}
    (h : Sentence v rest ps) (text : List Char) :
    Sentence v (doubled text ++ rest) (text.map .character ++ ps) := by
  induction text with
  | nil => exact h
  | cons c text ih =>
    by_cases hc : c = '%'
    · subst hc
      exact .percent ih
    · simp only [doubled, List.flatMap_cons, if_neg hc]
      exact .character hc ih

/-- Doubling leaves the first character in its place. -/
theorem EndsName.doubled_append {text : List Char} (h : EndsName text) (htext : text ≠ [])
    (rest : List Char) : EndsName (doubled text ++ rest) := by
  obtain ⟨c, text, rfl⟩ := List.exists_cons_of_ne_nil htext
  intro d hd
  have hcd : c = d := by
    by_cases hc : c = '%' <;> simpa [doubled, hc] using hd
  rw [← hcd]
  exact h c rfl

/-- The segment that a column comes from. -/
def segmentOf (c : ProgramColumn) : Segment :=
  if c.keyword = ProgramColumn.literalKeyword then .literal (c.parameter.getD "").toList
  else .keyword c

theorem segmentOf_literal (text : String) :
    segmentOf (.literal text) = .literal text.toList := by
  simp [segmentOf, ProgramColumn.literal]

theorem isLiteral_segmentOf_iff {c : ProgramColumn} :
    (segmentOf c).IsLiteral ↔ c.keyword = ProgramColumn.literalKeyword := by
  unfold segmentOf
  split <;> simp_all [Segment.IsLiteral]

section

variable {v : Vocabulary} (hv : v.Regular) {columns : List ProgramColumn}

include hv

theorem segmentOf_columnOf {k : Keyword} (hk : k ∈ v.keywords) (parameter : String) :
    segmentOf (k.columnOf parameter) = .keyword (k.columnOf parameter) := by
  rw [segmentOf, if_neg]
  rw [Keyword.keyword_columnOf]
  exact (hv.keywords k hk).ne_literal

theorem column_segmentOf {c : ProgramColumn} (h : v.HasColumn c) : (segmentOf c).column = c := by
  cases h with
  | literal text =>
    rw [segmentOf_literal, Segment.column, String.ofList_toList]
  | keyword hk parameter =>
    rw [segmentOf_columnOf hv hk]
    rfl

theorem isSegmentation_segmentOf (h : Spellable v columns) :
    IsSegmentation ((columns.map segmentOf).flatMap Segment.pieces) (columns.map segmentOf) where
  pieces := rfl
  nonempty hmem := by
    obtain ⟨c, hc, hsegment⟩ := List.mem_map.mp hmem
    cases h.hasColumn c hc with
    | literal text =>
      rw [segmentOf_literal] at hsegment
      obtain rfl : text = "" := String.toList_eq_nil_iff.mp (by simpa using hsegment)
      exact h.nonempty hc
    | keyword hk parameter =>
      rw [segmentOf_columnOf hv hk] at hsegment
      cases hsegment
  maximal := by
    rw [List.isChain_map]
    refine h.apart.imp fun a b hapart => ?_
    rwa [isLiteral_segmentOf_iff, isLiteral_segmentOf_iff]

/-- What is spelled behind a bare name does not go on with the name. -/
theorem endsName_spelling {c : ProgramColumn} (hbare : v.IsBare c)
    (h : Spellable v (c :: columns)) : EndsName (columns.flatMap (spelling v)) := by
  cases columns with
  | nil => simp [EndsName]
  | cons next columns =>
    cases h.hasColumn next (by simp) with
    | literal text =>
      have htext : text.toList ≠ [] := by
        intro hnil
        obtain rfl : text = "" := String.toList_eq_nil_iff.mp hnil
        exact h.nonempty (by simp)
      have hends := (List.isChain_cons_cons.mp h.delimited).1 hbare text rfl
      rw [List.flatMap_cons, spelling_literal hv]
      exact hends.doubled_append htext _
    | keyword hk parameter =>
      rw [List.flatMap_cons, spelling_columnOf hv hk]
      exact (endsToken_marker _).endsName

/-- The spelling of columns is a sentence of their pieces. -/
theorem sentence_spelling (h : Spellable v columns) :
    Sentence v (columns.flatMap (spelling v)) ((columns.map segmentOf).flatMap Segment.pieces) := by
  induction columns with
  | nil => exact .nil
  | cons c columns ih =>
    have hrest := ih h.of_cons
    rw [List.map_cons, List.flatMap_cons, List.flatMap_cons]
    cases h.hasColumn c List.mem_cons_self with
    | literal text =>
      rw [spelling_literal hv, segmentOf_literal]
      exact hrest.doubled_append text.toList
    | @keyword k hk parameter =>
      have hfind : v.find? (.ofList k.name.toList) = some k := by
        rw [String.ofList_toList]
        exact find?_name hv hk
      have hends : k.isBare = true → EndsName (columns.flatMap (spelling v)) := fun hbare =>
        endsName_spelling hv ((isBare_columnOf_iff hv hk parameter).mpr hbare) h
      rw [spelling_columnOf hv hk, segmentOf_columnOf hv hk]
      exact .keyword (hv.keywords k hk).isName (Keyword.endsName_argument_append parameter hends)
        hfind (Keyword.argument_of_takes (h.takes k hk parameter List.mem_cons_self) _) hrest

/-- The canonical format string of columns that can be spelled means these
columns. -/
theorem compile_canonical {program : Program} (h : Spellable v program.columns) :
    compile v (canonical v program) = .ok program := by
  refine compile_eq_ok_iff.mpr
    ⟨_, program.columns.map segmentOf, ?_, isSegmentation_segmentOf hv h, ?_⟩
  · rw [canonical, String.toList_ofList]
    exact sentence_spelling hv h
  · rw [List.map_map]
    calc
      program.columns = program.columns.map id := (List.map_id _).symm
      _ = program.columns.map (Segment.column ∘ segmentOf) :=
        List.map_congr_left fun c hc => (column_segmentOf hv (h.hasColumn c hc)).symm

end

/-! ## From a sentence to columns -/

/-- A sentence whose first piece is a character starts with this character. -/
theorem Sentence.head?_of_character {v : Vocabulary} {text : List Char} {ps : List Piece}
    (h : Sentence v text ps) {c : Char} (hps : ps.head? = some (.character c)) :
    text.head? = some c := by
  cases h with
  | nil => cases hps
  | character hc h | percent h =>
    cases hps
    rfl
  | keyword hname hend hk hargument h => cases hps

/-- A bare name does not go on with this character. -/
def NameEnds (v : Vocabulary) : Piece → Piece → Prop
  | .column column, .character c => v.IsBare column → isNameChar c = false
  | _, _ => True

section

variable {v : Vocabulary} (hv : v.Regular)

include hv

/-- The characters behind a bare name do not go on with it. -/
theorem Sentence.isChain_nameEnds {text : List Char} {ps : List Piece} (h : Sentence v text ps) :
    ps.IsChain (NameEnds v) := by
  induction h with
  | nil => exact .nil
  | character _ _ ih | percent _ ih => exact ih.cons fun _ _ => trivial
  | @keyword name argument rest k column ps hname hend hfind hargument h ih =>
    refine ih.cons fun piece hpiece => ?_
    cases piece with
    | column other => trivial
    | character c =>
      intro hbare
      have hk := (hv.sorted.find?_eq_some_iff.mp hfind).1
      obtain ⟨parameter, -, rfl⟩ := (hv.keywords k hk).exists_takes hargument
      have hnil := Keyword.argument_eq_nil_of_isBare
        ((isBare_columnOf_iff hv hk parameter).mp hbare) hargument
      rw [hnil, List.nil_append] at hend
      exact hend c (h.head?_of_character hpiece)

/-- The keywords among the segments of a sentence take their parameters. -/
theorem exists_takes_of_mem_segments {text : List Char} {ps : List Piece}
    {segments : List Segment} (h : Sentence v text ps) (hsegments : IsSegmentation ps segments)
    {c : ProgramColumn} (hmem : .keyword c ∈ segments) :
    ∃ k ∈ v.keywords, ∃ parameter, k.Takes parameter ∧ c = k.columnOf parameter := by
  have hpiece : .column c ∈ ps := by
    rw [← hsegments.pieces]
    exact List.mem_flatMap.mpr ⟨_, hmem, List.mem_singleton_self _⟩
  obtain ⟨name, k, argument, rest, hfind, hargument⟩ := h.exists_argument hpiece
  have hk := (hv.sorted.find?_eq_some_iff.mp hfind).1
  exact ⟨k, hk, (hv.keywords k hk).exists_takes hargument⟩

theorem keyword_ne_literalKeyword {text : List Char} {ps : List Piece}
    {segments : List Segment} (h : Sentence v text ps) (hsegments : IsSegmentation ps segments)
    {c : ProgramColumn} (hmem : .keyword c ∈ segments) :
    c.keyword ≠ ProgramColumn.literalKeyword := by
  obtain ⟨k, hk, parameter, -, rfl⟩ := exists_takes_of_mem_segments hv h hsegments hmem
  rw [Keyword.keyword_columnOf]
  exact (hv.keywords k hk).ne_literal

theorem not_isBare_literal (text : String) : ¬v.IsBare (.literal text) := by
  rintro ⟨k, hk, hname, -⟩
  exact (hv.keywords k hk).ne_literal hname

/-- A keyword's column with literal text behind it, as their first pieces show
it. -/
theorem endsName_of_nameEnds {a : Segment} {first : Char} {text : List Char} {rest : List Piece}
    (hchain :
      (a.pieces ++ (Segment.pieces (.literal (first :: text)) ++ rest)).IsChain (NameEnds v))
    (hbare : v.IsBare a.column) : EndsName (first :: text) := by
  cases a with
  | literal before => exact absurd hbare (not_isBare_literal hv _)
  | keyword c =>
    have hfirst : isNameChar first = false := (List.isChain_cons_cons.mp hchain).1 hbare
    simpa [EndsName] using hfirst

omit hv in
/-- Literal text comes from a literal segment. -/
theorem eq_literal_of_column_eq {segment : Segment} {text : String}
    (hkeyword : ∀ c, segment = .keyword c → c.keyword ≠ ProgramColumn.literalKeyword)
    (h : segment.column = .literal text) : segment = .literal text.toList := by
  cases segment with
  | keyword c =>
    refine absurd ?_ (hkeyword c rfl)
    rw [show c = .literal text from h]
    rfl
  | literal chars =>
    obtain rfl : String.ofList chars = text := by
      simpa [Segment.column, ProgramColumn.literal] using h
    rw [String.toList_ofList]

section Columns

variable {segments : List Segment}
  (hkeyword : ∀ c, .keyword c ∈ segments → c.keyword ≠ ProgramColumn.literalKeyword)

include hkeyword

omit hv in
theorem literal_notMem_columns (hnonempty : .literal [] ∉ segments) :
    .literal "" ∉ segments.map Segment.column := by
  intro hmem
  obtain ⟨segment, hsegment, hempty⟩ := List.mem_map.mp hmem
  obtain rfl := eq_literal_of_column_eq (fun c hc => hkeyword c (hc ▸ hsegment)) hempty
  exact hnonempty hsegment

omit hv in
/-- Literal segments are told by their columns. -/
theorem isLiteral_of_keyword_eq {segment : Segment} (hmem : segment ∈ segments)
    (h : segment.column.keyword = ProgramColumn.literalKeyword) : segment.IsLiteral := by
  cases segment with
  | literal text => trivial
  | keyword c => exact absurd h (hkeyword c hmem)

theorem isChain_delimited
    (hchain : (segments.flatMap Segment.pieces).IsChain (NameEnds v))
    (hnonempty : .literal [] ∉ segments) :
    segments.IsChain fun a b =>
      v.IsBare a.column → ∀ text, b.column = .literal text → EndsName text.toList := by
  induction segments with
  | nil => exact .nil
  | cons a segments ih =>
    have hrest := ih (fun c hc => hkeyword c (List.mem_cons_of_mem _ hc))
      (List.isChain_append.mp hchain).2.1 (fun hmem => hnonempty (List.mem_cons_of_mem _ hmem))
    cases segments with
    | nil => exact .singleton _
    | cons b segments =>
      refine List.isChain_cons_cons.mpr ⟨fun hbare text htext => ?_, hrest⟩
      obtain rfl := eq_literal_of_column_eq (fun c hc => hkeyword c (by simp [hc])) htext
      cases htoList : text.toList with
      | nil => simp [htoList] at hnonempty
      | cons first chars =>
        rw [htoList] at hchain
        exact endsName_of_nameEnds hv hchain hbare

end Columns

/-- The program of an accepted format can be spelled. -/
theorem spellable_of_compile {format : String} {program : Program}
    (h : compile v format = .ok program) : Spellable v program.columns := by
  obtain ⟨ps, segments, hsentence, hsegments, hcolumns⟩ := compile_eq_ok_iff.mp h
  have htakes : ∀ c, .keyword c ∈ segments →
      ∃ k ∈ v.keywords, ∃ parameter, k.Takes parameter ∧ c = k.columnOf parameter :=
    fun _ => exists_takes_of_mem_segments hv hsentence hsegments
  have hkeyword : ∀ c, .keyword c ∈ segments → c.keyword ≠ ProgramColumn.literalKeyword :=
    fun _ => keyword_ne_literalKeyword hv hsentence hsegments
  rw [hcolumns]
  constructor
  case hasColumn =>
    intro c hc
    obtain ⟨segment, hsegment, rfl⟩ := List.mem_map.mp hc
    cases segment with
    | literal text => exact .literal _
    | keyword c =>
      obtain ⟨k, hk, parameter, -, rfl⟩ := htakes c hsegment
      exact .keyword hk parameter
  case nonempty => exact literal_notMem_columns hkeyword hsegments.nonempty
  case apart =>
    rw [List.isChain_map]
    exact hsegments.maximal.imp_of_mem_imp fun a b ha hb hapart hnames =>
      hapart ⟨isLiteral_of_keyword_eq hkeyword ha hnames.1,
        isLiteral_of_keyword_eq hkeyword hb hnames.2⟩
  case takes =>
    intro k hk parameter hmem
    obtain ⟨segment, hsegment, hcolumn⟩ := List.mem_map.mp hmem
    cases segment with
    | literal text => exact absurd hcolumn.symm (columnOf_ne_literal hv hk parameter _)
    | keyword c =>
      obtain ⟨other, hother, taken, hother_takes, rfl⟩ := htakes c hsegment
      have hname : other.name = k.name := by
        rw [← Keyword.keyword_columnOf other taken, ← Keyword.keyword_columnOf k parameter]
        exact congrArg ProgramColumn.keyword hcolumn
      obtain rfl := hv.sorted.eq_of_name_eq hother hk hname
      exact hother_takes.of_columnOf_eq hcolumn
  case delimited =>
    rw [List.isChain_map]
    refine isChain_delimited hv hkeyword ?_ hsegments.nonempty
    rw [hsegments.pieces]
    exact hsentence.isChain_nameEnds hv

end

/-- The programs of the formats that the standard vocabulary accepts are the
lists of columns that can be spelled: no literal text is empty or goes on with
another or with a bare name, and each keyword takes its parameter.  The canonical
format string of such a program has this program again. -/
theorem compile_canonical_standard :
    (∀ format program, compile .standard format = .ok program →
      Spellable .standard program.columns ∧
        compile .standard (canonical .standard program) = .ok program) ∧
    (∀ program : Program, Spellable .standard program.columns →
      compile .standard (canonical .standard program) = .ok program) := by
  have hv := Vocabulary.regular_standard
  refine ⟨fun format program h => ?_, fun program => compile_canonical hv⟩
  have hspellable := spellable_of_compile hv h
  exact ⟨hspellable, compile_canonical hv hspellable⟩

/-- The default pattern of a time is written out in the canonical format string, and the
program stays the same. -/
theorem compile_canonical_of_default_pattern :
    let program : Program :=
      ⟨[.literal "100%", ⟨"n", some "\n", .text "\n"⟩, ⟨"const", some "a[b", .text "a[b"⟩,
        ⟨"time", some Vocabulary.defaultTimePattern,
          .writtenTime (.ofString Vocabulary.defaultTimePattern)⟩]⟩
    compile .standard "100%%%n%const(a[b)%time" = .ok program ∧
      canonical .standard program = "100%%%n%const(a[b)%time[%Y-%m-%d %H:%M:%S]" ∧
      compile .standard "100%%%n%const(a[b)%time[%Y-%m-%d %H:%M:%S]" = .ok program := by
  intro program
  have hcompile : compile .standard "100%%%n%const(a[b)%time" = .ok program := by decide +kernel
  have hcanonical : canonical .standard program =
      "100%%%n%const(a[b)%time[%Y-%m-%d %H:%M:%S]" := by decide +kernel
  refine ⟨hcompile, hcanonical, ?_⟩
  rw [← hcanonical]
  exact (compile_canonical_standard.1 _ _ hcompile).2

end Format

end TcpJournal
