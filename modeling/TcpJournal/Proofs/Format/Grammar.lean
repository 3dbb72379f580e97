import Mathlib.Data.List.Basic
import TcpJournal.Format.Compile

/-!
# The grammar of format strings

A format string is a sequence of tokens: a character other than `%`, a doubled
`%`, or a `%` with the name of a keyword and the argument that the keyword asks
for.  A name is as long as it can be, an argument ends at the first closing
delimiter, and a bracket behind the name of an optional keyword always opens
an argument.

`Format.Sentence` is this grammar, and `Format.Fault` tells what is wrong with
a marker behind which no token can be read.  The reader is compared with both:
it succeeds exactly on sentences (`pieces_eq_ok_iff`), and it fails exactly
behind a sentence, at a marker with that fault (`pieces_eq_error_iff`).
-/

namespace TcpJournal

namespace Format

/-- The name of a keyword: at least one character, all of them name characters. -/
structure IsName (name : List Char) : Prop where
  ne_nil : name ≠ []
  all : ∀ c ∈ name, isNameChar c = true

/-- A name in front of this text does not go on with it. -/
def EndsName (rest : List Char) : Prop :=
  ∀ c ∈ rest.head?, isNameChar c = false

/-- The argument of a keyword in front of the rest of a text, and the column
that the keyword stands for with it. -/
inductive Argument (k : Keyword) : List Char → List Char → ProgramColumn → Prop
  | plain {column : Column} {rest : List Char} (h : k.usage = .plain column) :
      Argument k [] rest ⟨k.name, none, column⟩
  | preset {parameter : String} {rule : ColumnRule} {rest : List Char}
      (h : k.usage = .preset parameter rule) :
      Argument k [] rest ⟨k.name, some parameter, rule.column parameter⟩
  | required {kind : ParameterKind} {rule : ColumnRule} {text rest : List Char}
      (h : k.usage = .required kind rule) (hclose : ')' ∉ text)
      (haccepts : kind.accepts (.ofList text) = true) :
      Argument k ('(' :: text ++ [')']) rest
        ⟨k.name, some (.ofList text), rule.column (.ofList text)⟩
  | bracketed {kind : ParameterKind} {default : String} {rule : ColumnRule}
      {text rest : List Char}
      (h : k.usage = .optional kind default rule) (hclose : ']' ∉ text)
      (haccepts : kind.accepts (.ofList text) = true) :
      Argument k ('[' :: text ++ [']']) rest
        ⟨k.name, some (.ofList text), rule.column (.ofList text)⟩
  | default {kind : ParameterKind} {default : String} {rule : ColumnRule} {rest : List Char}
      (h : k.usage = .optional kind default rule) (hopen : rest.head? ≠ some '[') :
      Argument k [] rest ⟨k.name, some default, rule.column default⟩

/-- The format strings of a vocabulary, with the pieces of their tokens. -/
inductive Sentence (v : Vocabulary) : List Char → List Piece → Prop
  | nil : Sentence v [] []
  | character {c : Char} {text : List Char} {ps : List Piece}
      (hc : c ≠ '%') (h : Sentence v text ps) :
      Sentence v (c :: text) (.character c :: ps)
  | percent {text : List Char} {ps : List Piece} (h : Sentence v text ps) :
      Sentence v ('%' :: '%' :: text) (.character '%' :: ps)
  | keyword {name argument rest : List Char} {k : Keyword} {column : ProgramColumn}
      {ps : List Piece} (hname : IsName name) (hend : EndsName (argument ++ rest))
      (hk : v.find? (.ofList name) = some k) (hargument : Argument k argument rest column)
      (h : Sentence v rest ps) :
      Sentence v ('%' :: (name ++ argument ++ rest)) (.column column :: ps)

/-- What is wrong with a text behind the name of a keyword. -/
inductive ArgumentFault (k : Keyword) : List Char → CompileError → Prop
  | missing {kind : ParameterKind} {rule : ColumnRule} {rest : List Char}
      (h : k.usage = .required kind rule) (hopen : rest.head? ≠ some '(') :
      ArgumentFault k rest (.parameterMissing k.name '(')
  | requiredUnclosed {kind : ParameterKind} {rule : ColumnRule} {rest : List Char}
      (h : k.usage = .required kind rule) (hclose : ')' ∉ rest) :
      ArgumentFault k ('(' :: rest) (.parameterUnclosed k.name ')')
  | requiredInvalid {kind : ParameterKind} {rule : ColumnRule} {text rest : List Char}
      (h : k.usage = .required kind rule) (hclose : ')' ∉ text)
      (haccepts : kind.accepts (.ofList text) = false) :
      ArgumentFault k ('(' :: text ++ ')' :: rest) (.invalidTimePattern k.name (.ofList text))
  | bracketedUnclosed {kind : ParameterKind} {default : String} {rule : ColumnRule}
      {rest : List Char} (h : k.usage = .optional kind default rule) (hclose : ']' ∉ rest) :
      ArgumentFault k ('[' :: rest) (.parameterUnclosed k.name ']')
  | bracketedInvalid {kind : ParameterKind} {default : String} {rule : ColumnRule}
      {text rest : List Char}
      (h : k.usage = .optional kind default rule) (hclose : ']' ∉ text)
      (haccepts : kind.accepts (.ofList text) = false) :
      ArgumentFault k ('[' :: text ++ ']' :: rest) (.invalidTimePattern k.name (.ofList text))

/-- What is wrong with the text behind a marker that stands at an offset. -/
inductive Fault (v : Vocabulary) (offset : Nat) : List Char → CompileError → Prop
  | nameless {rest : List Char} (hmarker : rest.head? ≠ some '%') (hend : EndsName rest) :
      Fault v offset rest (.namelessKeyword offset)
  | unknown {name rest : List Char} (hname : IsName name) (hend : EndsName rest)
      (hk : v.find? (.ofList name) = none) :
      Fault v offset (name ++ rest) (.unknownName (.ofList name))
  | argument {name rest : List Char} {k : Keyword} {e : CompileError}
      (hname : IsName name) (hend : EndsName rest) (hk : v.find? (.ofList name) = some k)
      (h : ArgumentFault k rest e) :
      Fault v offset (name ++ rest) e

/-! ## Names -/

theorem endsName_dropWhile (text : List Char) : EndsName (text.dropWhile isNameChar) := by
  intro c hc
  have h := List.head?_dropWhile_not isNameChar text
  rw [Option.mem_def.mp hc] at h
  exact h

theorem takeWhile_of_endsName {rest : List Char} (h : EndsName rest) :
    rest.takeWhile isNameChar = [] := by
  cases rest with
  | nil => rfl
  | cons c rest => simp [h c rfl]

theorem dropWhile_of_endsName {rest : List Char} (h : EndsName rest) :
    rest.dropWhile isNameChar = rest := by
  cases rest with
  | nil => rfl
  | cons c rest => simp [h c rfl]

theorem IsName.takeWhile_append {name rest : List Char} (h : IsName name) (hend : EndsName rest) :
    (name ++ rest).takeWhile isNameChar = name := by
  rw [List.takeWhile_append_of_pos h.all, takeWhile_of_endsName hend, List.append_nil]

theorem IsName.dropWhile_append {name rest : List Char} (h : IsName name) (hend : EndsName rest) :
    (name ++ rest).dropWhile isNameChar = rest := by
  rw [List.dropWhile_append_of_pos h.all, dropWhile_of_endsName hend]

/-- The longest name at the start of a text is a name unless it is empty. -/
theorem isName_takeWhile {text : List Char} (h : text.takeWhile isNameChar ≠ []) :
    IsName (text.takeWhile isNameChar) :=
  ⟨h, fun _ hc => List.all_eq_true.mp List.all_takeWhile _ hc⟩

/-- A name does not start with a marker. -/
theorem IsName.head?_append_ne {name : List Char} (h : IsName name) (rest : List Char) :
    (name ++ rest).head? ≠ some '%' := by
  cases name with
  | nil => exact absurd rfl h.ne_nil
  | cons c name =>
    intro hc
    have hmarker : isNameChar '%' = true := by
      rw [← Option.some.inj hc]
      exact h.all c List.mem_cons_self
    exact absurd hmarker (by decide)

/-! ## Arguments -/

/-- Mapping over a result keeps its success. -/
theorem map_eq_ok_iff {ε α β : Type} {x : Except ε α} {f : α → β} {b : β} :
    x.map f = .ok b ↔ ∃ a, x = .ok a ∧ f a = b := by
  cases x <;> simp [Except.map]

/-- Mapping over a result keeps its error. -/
theorem map_eq_error_iff {ε α β : Type} {x : Except ε α} {f : α → β} {e : ε} :
    x.map f = .error e ↔ x = .error e := by
  cases x <;> simp [Except.map]

theorem enclosed_eq_ok_iff {name : String} {kind : ParameterKind} {closing : Char}
    {text rest : List Char} {parameter : String} :
    enclosed name kind closing text = .ok (parameter, rest) ↔
      ∃ value, closing ∉ value ∧ text = value ++ closing :: rest ∧
        kind.accepts (.ofList value) = true ∧ parameter = .ofList value := by
  unfold enclosed
  cases hsplit : Text.splitAt? closing text with
  | none =>
    rw [Text.splitAt?_eq_none_iff] at hsplit
    simp only [reduceCtorEq, false_iff, not_exists]
    rintro value ⟨-, rfl, -⟩
    exact hsplit (by simp)
  | some found =>
    obtain ⟨value, after⟩ := found
    have hvalue := Text.splitAt?_eq_some_iff.mp hsplit
    dsimp only
    constructor
    · intro h
      split at h
      · next haccepts =>
        cases h
        exact ⟨value, hvalue.1, hvalue.2, haccepts, rfl⟩
      · cases h
    · rintro ⟨other, hclose, htext, haccepts, rfl⟩
      have hother := Text.splitAt?_eq_some_iff.mpr ⟨hclose, htext⟩
      rw [hsplit] at hother
      cases hother
      rw [if_pos haccepts]

theorem enclosed_eq_error_iff {name : String} {kind : ParameterKind} {closing : Char}
    {text : List Char} {e : CompileError} :
    enclosed name kind closing text = .error e ↔
      (closing ∉ text ∧ e = .parameterUnclosed name closing) ∨
        ∃ value rest, closing ∉ value ∧ text = value ++ closing :: rest ∧
          kind.accepts (.ofList value) = false ∧ e = .invalidTimePattern name (.ofList value) := by
  unfold enclosed
  cases hsplit : Text.splitAt? closing text with
  | none =>
    have hclose := Text.splitAt?_eq_none_iff.mp hsplit
    constructor
    · intro h
      cases h
      exact Or.inl ⟨hclose, rfl⟩
    · rintro (⟨-, rfl⟩ | ⟨value, rest, -, rfl, -⟩)
      · rfl
      · exact absurd (by simp) hclose
  | some found =>
    obtain ⟨value, after⟩ := found
    have hvalue := Text.splitAt?_eq_some_iff.mp hsplit
    dsimp only
    constructor
    · intro h
      split at h
      · cases h
      · next haccepts =>
        cases h
        exact Or.inr ⟨value, after, hvalue.1, hvalue.2, by simpa using haccepts, rfl⟩
    · rintro (⟨hclose, -⟩ | ⟨other, rest, hclose, htext, haccepts, rfl⟩)
      · exact absurd (by simp [hvalue.2]) hclose
      · have hother := Text.splitAt?_eq_some_iff.mpr ⟨hclose, htext⟩
        rw [hsplit] at hother
        cases hother
        rw [haccepts]
        rfl

/-- A parameter that is accepted becomes the parameter of a column. -/
theorem map_enclosed_eq_ok_iff
    {k : Keyword} {kind : ParameterKind} {rule : ColumnRule} {closing : Char}
    {text rest : List Char} {column : ProgramColumn} :
    ((enclosed k.name kind closing text).map fun (parameter, rest) =>
        ((⟨k.name, some parameter, rule.column parameter⟩ : ProgramColumn), rest)) =
          .ok (column, rest) ↔
      ∃ value, closing ∉ value ∧ text = value ++ closing :: rest ∧
        kind.accepts (.ofList value) = true ∧
        column = ⟨k.name, some (.ofList value), rule.column (.ofList value)⟩ := by
  rw [map_eq_ok_iff]
  constructor
  · rintro ⟨⟨parameter, after⟩, henclosed, he⟩
    cases he
    obtain ⟨value, hclose, htext, haccepts, rfl⟩ := enclosed_eq_ok_iff.mp henclosed
    exact ⟨value, hclose, htext, haccepts, rfl⟩
  · rintro ⟨value, hclose, htext, haccepts, rfl⟩
    exact ⟨(.ofList value, rest),
      enclosed_eq_ok_iff.mpr ⟨value, hclose, htext, haccepts, rfl⟩, rfl⟩

theorem keywordColumn_eq_ok_iff {k : Keyword} {text rest : List Char} {column : ProgramColumn} :
    keywordColumn k text = .ok (column, rest) ↔
      ∃ argument, text = argument ++ rest ∧ Argument k argument rest column := by
  constructor
  · intro h
    unfold keywordColumn at h
    split at h
    · next husage =>
      cases h
      exact ⟨[], rfl, .plain husage⟩
    · next husage =>
      cases h
      exact ⟨[], rfl, .preset husage⟩
    · next husage =>
      split at h
      · cases h
      · next hopen =>
        obtain ⟨value, hclose, rfl, haccepts, rfl⟩ := map_enclosed_eq_ok_iff.mp h
        rw [Text.expect?_eq_some_iff.mp hopen]
        exact ⟨'(' :: value ++ [')'], by simp, .required husage hclose haccepts⟩
    · next husage =>
      split at h
      · next hopen =>
        cases h
        exact ⟨[], rfl, .default husage (Text.expect?_eq_none_iff.mp hopen)⟩
      · next hopen =>
        obtain ⟨value, hclose, rfl, haccepts, rfl⟩ := map_enclosed_eq_ok_iff.mp h
        rw [Text.expect?_eq_some_iff.mp hopen]
        exact ⟨'[' :: value ++ [']'], by simp, .bracketed husage hclose haccepts⟩
  · rintro ⟨argument, rfl, h⟩
    unfold keywordColumn
    cases h with
    | plain husage => simp [husage]
    | preset husage => simp [husage]
    | required husage hclose haccepts =>
      simp only [husage, List.cons_append, List.append_assoc, List.nil_append, Text.expect?,
        if_true]
      exact map_enclosed_eq_ok_iff.mpr ⟨_, hclose, rfl, haccepts, rfl⟩
    | bracketed husage hclose haccepts =>
      simp only [husage, List.cons_append, List.append_assoc, List.nil_append, Text.expect?,
        if_true]
      exact map_enclosed_eq_ok_iff.mpr ⟨_, hclose, rfl, haccepts, rfl⟩
    | default husage hopen => simp [husage, Text.expect?_eq_none_iff.mpr hopen]

theorem keywordColumn_eq_error_iff {k : Keyword} {text : List Char} {e : CompileError} :
    keywordColumn k text = .error e ↔ ArgumentFault k text e := by
  constructor
  · intro h
    unfold keywordColumn at h
    split at h
    · cases h
    · cases h
    · next husage =>
      split at h
      · next hopen =>
        cases h
        exact .missing husage (Text.expect?_eq_none_iff.mp hopen)
      · next hopen =>
        rw [Text.expect?_eq_some_iff.mp hopen]
        obtain ⟨hclose, rfl⟩ | ⟨value, rest, hclose, rfl, haccepts, rfl⟩ :=
          enclosed_eq_error_iff.mp (map_eq_error_iff.mp h)
        · exact .requiredUnclosed husage hclose
        · exact .requiredInvalid husage hclose haccepts
    · next husage =>
      split at h
      · cases h
      · next hopen =>
        rw [Text.expect?_eq_some_iff.mp hopen]
        obtain ⟨hclose, rfl⟩ | ⟨value, rest, hclose, rfl, haccepts, rfl⟩ :=
          enclosed_eq_error_iff.mp (map_eq_error_iff.mp h)
        · exact .bracketedUnclosed husage hclose
        · exact .bracketedInvalid husage hclose haccepts
  · intro h
    unfold keywordColumn
    cases h with
    | missing husage hopen => simp [husage, Text.expect?_eq_none_iff.mpr hopen]
    | requiredUnclosed husage hclose =>
      simp only [husage, Text.expect?, if_true, map_eq_error_iff]
      exact enclosed_eq_error_iff.mpr (.inl ⟨hclose, rfl⟩)
    | requiredInvalid husage hclose haccepts =>
      simp only [husage, List.cons_append, Text.expect?, if_true, map_eq_error_iff]
      exact enclosed_eq_error_iff.mpr (.inr ⟨_, _, hclose, rfl, haccepts, rfl⟩)
    | bracketedUnclosed husage hclose =>
      simp only [husage, Text.expect?, if_true, map_eq_error_iff]
      exact enclosed_eq_error_iff.mpr (.inl ⟨hclose, rfl⟩)
    | bracketedInvalid husage hclose haccepts =>
      simp only [husage, List.cons_append, Text.expect?, if_true, map_eq_error_iff]
      exact enclosed_eq_error_iff.mpr (.inr ⟨_, _, hclose, rfl, haccepts, rfl⟩)

/-! ## Keywords -/

theorem keyword_eq_ok_iff {v : Vocabulary} {total : Nat} {text rest : List Char}
    {column : ProgramColumn} :
    keyword v total text = .ok (column, rest) ↔
      ∃ name argument k, IsName name ∧ EndsName (argument ++ rest) ∧
        v.find? (.ofList name) = some k ∧ Argument k argument rest column ∧
        text = name ++ argument ++ rest := by
  constructor
  · intro h
    unfold keyword at h
    dsimp only at h
    split at h
    · cases h
    · next hname =>
      split at h
      · cases h
      · next k hk =>
        obtain ⟨argument, htext, hargument⟩ := keywordColumn_eq_ok_iff.mp h
        refine ⟨_, argument, k, isName_takeWhile hname, ?_, hk, hargument, ?_⟩
        · rw [← htext]
          exact endsName_dropWhile text
        · rw [List.append_assoc, ← htext, List.takeWhile_append_dropWhile]
  · rintro ⟨name, argument, k, hname, hend, hk, hargument, rfl⟩
    unfold keyword
    dsimp only
    rw [List.append_assoc, hname.takeWhile_append hend, hname.dropWhile_append hend,
      if_neg hname.ne_nil, hk]
    exact keywordColumn_eq_ok_iff.mpr ⟨argument, rfl, hargument⟩

theorem keyword_eq_error_iff {v : Vocabulary} {total : Nat} {text : List Char}
    {e : CompileError} (hmarker : text.head? ≠ some '%') :
    keyword v total text = .error e ↔ Fault v (total - byteCount ('%' :: text)) text e := by
  constructor
  · intro h
    unfold keyword at h
    dsimp only at h
    split at h
    · next hname =>
      cases h
      have hend := endsName_dropWhile text
      rw [← List.nil_append (text.dropWhile isNameChar), ← hname,
        List.takeWhile_append_dropWhile] at hend
      exact .nameless hmarker hend
    · next hname =>
      have hfault {e : CompileError} (h : Fault v (total - byteCount ('%' :: text))
          (text.takeWhile isNameChar ++ text.dropWhile isNameChar) e) :
          Fault v (total - byteCount ('%' :: text)) text e := by
        rwa [List.takeWhile_append_dropWhile] at h
      split at h
      · next hk =>
        cases h
        exact hfault (.unknown (isName_takeWhile hname) (endsName_dropWhile text) hk)
      · next k hk =>
        exact hfault (.argument (isName_takeWhile hname) (endsName_dropWhile text) hk
          (keywordColumn_eq_error_iff.mp h))
  · intro h
    unfold keyword
    dsimp only
    generalize hoffset : total - byteCount ('%' :: text) = offset at h ⊢
    clear hoffset
    cases h with
    | nameless _ hend => rw [if_pos (takeWhile_of_endsName hend)]
    | unknown hname hend hk =>
      rw [hname.takeWhile_append hend, if_neg hname.ne_nil, hk]
    | argument hname hend hk h =>
      rw [hname.takeWhile_append hend, hname.dropWhile_append hend, if_neg hname.ne_nil, hk]
      exact keywordColumn_eq_error_iff.mpr h

/-- A fault is not behind the first sign of a doubled `%`. -/
theorem Fault.head?_ne {v : Vocabulary} {offset : Nat} {text : List Char} {e : CompileError}
    (h : Fault v offset text e) : text.head? ≠ some '%' := by
  cases h with
  | nameless hmarker _ => exact hmarker
  | unknown hname _ _ => exact hname.head?_append_ne _
  | argument hname _ _ _ => exact hname.head?_append_ne _

/-! ## Sentences -/

theorem EndsName.append {text later : List Char} (h : EndsName text)
    (hlater : text = [] → EndsName later) : EndsName (text ++ later) := by
  cases text with
  | nil => exact hlater rfl
  | cons c text => exact h

theorem EndsName.of_append {text later : List Char} (h : EndsName (text ++ later)) :
    EndsName text := by
  cases text with
  | nil => simp [EndsName]
  | cons c text => exact h

/-- A text that does not go on with the token in front of it. -/
structure EndsToken (later : List Char) : Prop where
  endsName : EndsName later
  not_bracket : later.head? ≠ some '['

theorem endsToken_nil : EndsToken [] := by
  constructor <;> simp [EndsName]

theorem endsToken_marker (text : List Char) : EndsToken ('%' :: text) := by
  constructor
  · intro c hc
    rw [← Option.some.inj hc]
    decide
  · simp

theorem EndsToken.of_append {text later : List Char} (h : EndsToken (text ++ later)) :
    EndsToken text := by
  cases text with
  | nil => exact endsToken_nil
  | cons c text => exact ⟨h.endsName, h.not_bracket⟩

/-- Of the text behind an argument only its first character matters. -/
theorem Argument.of_head? {k : Keyword} {argument rest other : List Char}
    {column : ProgramColumn} (h : Argument k argument rest column)
    (hother : other.head? = some '[' → rest.head? = some '[') :
    Argument k argument other column := by
  cases h with
  | plain husage => exact .plain husage
  | preset husage => exact .preset husage
  | required husage hclose haccepts => exact .required husage hclose haccepts
  | bracketed husage hclose haccepts => exact .bracketed husage hclose haccepts
  | default husage hopen => exact .default husage (mt hother hopen)

/-- An argument that is written is closed, so any text may follow it. -/
theorem Argument.append {k : Keyword} {argument rest later : List Char} {column : ProgramColumn}
    (h : Argument k argument rest column) (hlater : argument ++ rest = [] → EndsToken later) :
    Argument k argument (rest ++ later) column := by
  cases rest with
  | cons c rest => exact h.of_head? id
  | nil =>
    cases h with
    | plain husage => exact .plain husage
    | preset husage => exact .preset husage
    | required husage hclose haccepts => exact .required husage hclose haccepts
    | bracketed husage hclose haccepts => exact .bracketed husage hclose haccepts
    | default husage hopen => exact .default husage (hlater rfl).not_bracket

theorem Argument.of_append {k : Keyword} {argument rest later : List Char}
    {column : ProgramColumn} (h : Argument k argument (rest ++ later) column) :
    Argument k argument rest column := by
  apply h.of_head?
  intro hopen
  cases rest with
  | nil => cases hopen
  | cons c rest => exact hopen

theorem pieces_nil (v : Vocabulary) (total : Nat) : pieces v total [] = .ok [] := by
  rw [pieces]

theorem pieces_percent (v : Vocabulary) (total : Nat) (text : List Char) :
    pieces v total ('%' :: '%' :: text) =
      (pieces v total text).map (.character '%' :: ·) := by
  rw [pieces]

theorem pieces_character (v : Vocabulary) (total : Nat) {c : Char} (hc : c ≠ '%')
    (text : List Char) :
    pieces v total (c :: text) = (pieces v total text).map (.character c :: ·) := by
  rw [pieces]
  · rintro rest rfl
    exact absurd rfl hc
  · rintro rfl
    exact absurd rfl hc

theorem pieces_marker {v : Vocabulary} {total : Nat} {text : List Char}
    (hmarker : text.head? ≠ some '%') :
    pieces v total ('%' :: text) =
      (keyword v total text).bind fun (column, rest) =>
        (pieces v total rest).map (.column column :: ·) := by
  rw [pieces]
  · split
    · next h =>
      rw [h]
      rfl
    · next h =>
      rw [h]
      rfl
  · rintro rest rfl
    exact hmarker rfl

/-- The last token of a sentence is the name of a keyword, with no argument behind it. -/
structure EndsInName (text : List Char) (ps : List Piece) : Prop where
  column : ∃ column, .column column ∈ ps.getLast?
  name : ∃ c ∈ text.getLast?, isNameChar c = true

theorem EndsInName.append {text : List Char} {ps : List Piece} (h : EndsInName text ps)
    (front : List Char) (read : List Piece) : EndsInName (front ++ text) (read ++ ps) where
  column := h.column.imp fun _ hlast => List.mem_getLast?_append_of_mem_getLast? hlast
  name := h.name.imp fun _ hlast => hlast.imp_left List.mem_getLast?_append_of_mem_getLast?

theorem IsName.endsInName {name : List Char} (h : IsName name) (column : ProgramColumn) :
    EndsInName ('%' :: name) [.column column] := by
  refine ⟨⟨column, rfl⟩, name.getLast h.ne_nil, ?_, h.all _ (List.getLast_mem _)⟩
  rw [List.getLast?_cons_of_ne_nil h.ne_nil, List.getLast?_eq_some_getLast h.ne_nil]
  rfl

/-- A sentence in front of a text is read token by token, unless the text goes
on with its last token. -/
theorem pieces_append {v : Vocabulary} (total : Nat) {before later : List Char}
    {ps : List Piece} (h : Sentence v before ps) (hlater : EndsInName before ps → EndsToken later) :
    pieces v total (before ++ later) = (pieces v total later).map (ps ++ ·) := by
  induction h with
  | nil => cases hread : pieces v total later <;> simp [Except.map, hread]
  | @character c text ps hc _ ih =>
    rw [List.cons_append, pieces_character v total hc,
      ih fun hends => hlater (hends.append [c] [_])]
    cases pieces v total later <;> rfl
  | @percent text ps _ ih =>
    rw [List.cons_append, List.cons_append, pieces_percent,
      ih fun hends => hlater (hends.append ['%', '%'] [_])]
    cases pieces v total later <;> rfl
  | @keyword name argument rest k column ps hname hend hk hargument hrest ih =>
    -- Only a name at the end of the sentence could go on in the text.
    have hstops : argument ++ rest = [] → EndsToken later := by
      intro hnil
      obtain ⟨rfl, rfl⟩ := List.append_eq_nil_iff.mp hnil
      obtain rfl : ps = [] := by
        cases hrest
        rfl
      rw [List.append_nil, List.append_nil] at hlater
      exact hlater (hname.endsInName column)
    have hend' : EndsName (argument ++ (rest ++ later)) := by
      rw [← List.append_assoc]
      exact hend.append fun hnil => (hstops hnil).endsName
    have hkeyword : Format.keyword v total (name ++ argument ++ (rest ++ later)) =
        .ok (column, rest ++ later) :=
      keyword_eq_ok_iff.mpr
        ⟨name, argument, k, hname, hend', hk, hargument.append hstops, rfl⟩
    have hmarker : (name ++ argument ++ (rest ++ later)).head? ≠ some '%' := by
      rw [List.append_assoc]
      exact hname.head?_append_ne _
    have htail : pieces v total (rest ++ later) = (pieces v total later).map (ps ++ ·) :=
      ih fun hends => hlater (hends.append ('%' :: (name ++ argument)) [_])
    rw [List.cons_append, List.append_assoc, pieces_marker hmarker, hkeyword]
    dsimp only [Except.bind]
    rw [htail]
    cases pieces v total later <;> rfl

/-- The keyword token of a marker behind which a keyword is read. -/
theorem sentence_of_keyword_eq_ok {v : Vocabulary} {total : Nat} {text rest : List Char}
    {column : ProgramColumn} {ps : List Piece}
    (hkeyword : keyword v total text = .ok (column, rest)) (h : Sentence v rest ps) :
    Sentence v ('%' :: text) (.column column :: ps) := by
  obtain ⟨name, argument, k, hname, hend, hk, hargument, rfl⟩ := keyword_eq_ok_iff.mp hkeyword
  exact .keyword hname hend hk hargument h

/-- Exactly the sentences are read, each as the pieces of its tokens. -/
theorem pieces_eq_ok_iff {v : Vocabulary} {total : Nat} {text : List Char} {ps : List Piece} :
    pieces v total text = .ok ps ↔ Sentence v text ps := by
  constructor
  · intro h
    fun_induction pieces v total text generalizing ps with
    | case1 =>
      cases h
      exact .nil
    | case2 text ih =>
      obtain ⟨rest, hrest, rfl⟩ := map_eq_ok_iff.mp h
      exact .percent (ih hrest)
    | case3 text _ e hkeyword => cases h
    | case4 text _ column rest hkeyword ih =>
      obtain ⟨ps, hps, rfl⟩ := map_eq_ok_iff.mp h
      exact sentence_of_keyword_eq_ok hkeyword (ih hps)
    | case5 c text _ hc ih =>
      obtain ⟨ps, hps, rfl⟩ := map_eq_ok_iff.mp h
      exact .character hc (ih hps)
  · intro h
    have hread := pieces_append total h fun _ => endsToken_nil
    rwa [List.append_nil, pieces_nil, Except.map, List.append_nil] at hread

/-- A text cannot be read exactly if a sentence stands in front of a marker
with a fault behind it. -/
theorem pieces_eq_error_iff {v : Vocabulary} {total : Nat} {text : List Char}
    {e : CompileError} :
    pieces v total text = .error e ↔
      ∃ before after ps, text = before ++ '%' :: after ∧ Sentence v before ps ∧
        Fault v (total - byteCount ('%' :: after)) after e := by
  constructor
  · intro h
    fun_induction pieces v total text with
    | case1 => cases h
    | case2 text ih =>
      obtain ⟨before, after, ps, rfl, hbefore, hfault⟩ := ih (map_eq_error_iff.mp h)
      exact ⟨'%' :: '%' :: before, after, _, rfl, .percent hbefore, hfault⟩
    | case3 text hmarker e' hkeyword =>
      cases h
      have hhead : text.head? ≠ some '%' := fun h =>
        (List.head?_eq_some_iff.mp h).elim hmarker
      exact ⟨[], text, [], rfl, .nil, (keyword_eq_error_iff hhead).mp hkeyword⟩
    | case4 text _ column rest hkeyword ih =>
      obtain ⟨before, after, ps, rfl, hbefore, hfault⟩ := ih (map_eq_error_iff.mp h)
      obtain ⟨name, argument, k, hname, hend, hk, hargument, rfl⟩ :=
        keyword_eq_ok_iff.mp hkeyword
      rw [← List.append_assoc] at hend
      exact ⟨'%' :: (name ++ argument ++ before), after, _, by simp,
        .keyword hname hend.of_append hk hargument.of_append hbefore, hfault⟩
    | case5 c text _ hc ih =>
      obtain ⟨before, after, ps, rfl, hbefore, hfault⟩ := ih (map_eq_error_iff.mp h)
      exact ⟨c :: before, after, _, rfl, .character hc hbefore, hfault⟩
  · rintro ⟨before, after, ps, rfl, hbefore, hfault⟩
    have hmarker : after.head? ≠ some '%' := hfault.head?_ne
    rw [pieces_append total hbefore fun _ => endsToken_marker after, pieces_marker hmarker,
      (keyword_eq_error_iff hmarker).mpr hfault]
    rfl

end Format

end TcpJournal
