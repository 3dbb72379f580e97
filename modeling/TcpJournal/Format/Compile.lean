import TcpJournal.Format.CompileError
import TcpJournal.Format.Program
import TcpJournal.Format.Vocabulary

/-!
# Compilation of format strings

A format string is read from left to right as a sequence of pieces: a character
that stands for itself, `%%` for a percent sign, or a keyword with its
parameter.  The name of a keyword is as long as it can be, and a parameter ends
at the first closing delimiter.  The first piece that cannot be read decides
the error.  Runs of characters are then fused into literal columns.
-/

namespace TcpJournal

namespace Format

/-- A character of a keyword name: an ASCII letter, a digit or an underscore. -/
def isNameChar (c : Char) : Bool :=
  Text.isAlphanumeric c || c == '_'

/-- One piece of a format string. -/
inductive Piece where
  | character (c : Char)
  | column (column : ProgramColumn)
  deriving DecidableEq, Repr

/-- The parameter before its closing delimiter, and the text after it. -/
def enclosed (keyword : String) (kind : ParameterKind) (closing : Char) (text : List Char) :
    Except CompileError (String × List Char) :=
  match Text.splitAt? closing text with
  | none => .error (.parameterUnclosed keyword closing)
  | some (parameter, rest) =>
    let parameter := String.ofList parameter
    if kind.accepts parameter then .ok (parameter, rest)
    else .error (.invalidTimePattern keyword parameter)

/-- The column of a keyword whose name has been read, with its parameter taken
from the text after the name, and the text after that. -/
def keywordColumn (k : Keyword) (text : List Char) :
    Except CompileError (ProgramColumn × List Char) :=
  match k.usage with
  | .plain column => .ok (⟨k.name, none, column⟩, text)
  | .preset parameter rule => .ok (⟨k.name, some parameter, rule.column parameter⟩, text)
  | .required kind rule =>
    match Text.expect? '(' text with
    | none => .error (.parameterMissing k.name '(')
    | some text =>
      (enclosed k.name kind ')' text).map fun (parameter, rest) =>
        (⟨k.name, some parameter, rule.column parameter⟩, rest)
  | .optional kind default rule =>
    match Text.expect? '[' text with
    | none => .ok (⟨k.name, some default, rule.column default⟩, text)
    | some text =>
      (enclosed k.name kind ']' text).map fun (parameter, rest) =>
        (⟨k.name, some parameter, rule.column parameter⟩, rest)

/-- The number of bytes of a text in UTF-8. -/
def byteCount (text : List Char) : Nat :=
  text.foldr (fun c n => c.utf8Size + n) 0

/-- The column of the keyword at the start of a text that follows a percent
sign, and the text after it.  `total` is the number of bytes of the whole
format, which tells where the percent sign stands. -/
def keyword (v : Vocabulary) (total : Nat) (text : List Char) :
    Except CompileError (ProgramColumn × List Char) :=
  let name := text.takeWhile isNameChar
  if name = [] then .error (.namelessKeyword (total - byteCount ('%' :: text)))
  else
    match v.find? (String.ofList name) with
    | none => .error (.unknownName (String.ofList name))
    | some k => keywordColumn k (text.dropWhile isNameChar)

theorem length_dropWhile_le (p : Char → Bool) (text : List Char) :
    (text.dropWhile p).length ≤ text.length :=
  (List.dropWhile_sublist p).length_le

theorem length_lt_of_splitAt? {stop : Char} {text before rest : List Char}
    (h : Text.splitAt? stop text = some (before, rest)) : rest.length < text.length := by
  induction text generalizing before with
  | nil => simp [Text.splitAt?] at h
  | cons c tail ih =>
    rw [Text.splitAt?] at h
    split at h
    · cases h
      simp
    · obtain ⟨⟨b, a⟩, hb, he⟩ := Option.map_eq_some_iff.1 h
      cases he
      exact Nat.lt_succ_of_lt (ih hb)

theorem length_le_of_expect? {c : Char} {text rest : List Char}
    (h : Text.expect? c text = some rest) : rest.length ≤ text.length := by
  cases text with
  | nil => simp [Text.expect?] at h
  | cons d tail =>
    rw [Text.expect?] at h
    split at h
    · cases h
      simp
    · cases h

theorem length_lt_of_enclosed {name : String} {kind : ParameterKind} {closing : Char}
    {text rest : List Char} {parameter : String}
    (h : enclosed name kind closing text = .ok (parameter, rest)) :
    rest.length < text.length := by
  unfold enclosed at h
  split at h
  · cases h
  · next hsplit =>
    dsimp only at h
    split at h
    · cases h
      exact length_lt_of_splitAt? hsplit
    · cases h

theorem length_le_of_map_enclosed {name : String} {kind : ParameterKind} {closing : Char}
    {text rest : List Char} {c : ProgramColumn} {f : String × List Char → ProgramColumn}
    (h : (enclosed name kind closing text).map (fun found => (f found, found.2)) =
      .ok (c, rest)) : rest.length ≤ text.length := by
  generalize hd : enclosed name kind closing text = d at h
  cases d with
  | error e => cases h
  | ok found =>
    cases h
    exact Nat.le_of_lt (length_lt_of_enclosed hd)

theorem length_le_of_keywordColumn {k : Keyword} {text rest : List Char} {c : ProgramColumn}
    (h : keywordColumn k text = .ok (c, rest)) : rest.length ≤ text.length := by
  unfold keywordColumn at h
  split at h
  · cases h
    exact Nat.le_refl _
  · cases h
    exact Nat.le_refl _
  · split at h
    · cases h
    · next hopen =>
      exact Nat.le_trans (length_le_of_map_enclosed h) (length_le_of_expect? hopen)
  · split at h
    · cases h
      exact Nat.le_refl _
    · next hopen =>
      exact Nat.le_trans (length_le_of_map_enclosed h) (length_le_of_expect? hopen)

theorem length_le_of_keyword {v : Vocabulary} {total : Nat} {text rest : List Char}
    {c : ProgramColumn} (h : keyword v total text = .ok (c, rest)) :
    rest.length ≤ text.length := by
  unfold keyword at h
  dsimp only at h
  split at h
  · cases h
  · split at h
    · cases h
    · exact Nat.le_trans (length_le_of_keywordColumn h) (length_dropWhile_le _ _)

/-- The pieces of a text with which a format of `total` bytes ends. -/
def pieces (v : Vocabulary) (total : Nat) : List Char → Except CompileError (List Piece)
  | [] => .ok []
  | '%' :: '%' :: text => (pieces v total text).map (.character '%' :: ·)
  | '%' :: text =>
    match _h : keyword v total text with
    | .error e => .error e
    | .ok (column, rest) => (pieces v total rest).map (.column column :: ·)
  | c :: text => (pieces v total text).map (.character c :: ·)
termination_by text => text.length
decreasing_by
  · simp only [List.length_cons]
    omega
  · have := length_le_of_keyword _h
    simp only [List.length_cons]
    omega
  · simp only [List.length_cons]
    omega

/-- A list of columns with the literal text that stands before it. -/
def withLiteral (literal : List Char) (columns : List ProgramColumn) : List ProgramColumn :=
  if literal = [] then columns else .literal (String.ofList literal) :: columns

/-- The text of the characters at the start of a list of pieces, and the
columns of what follows them. -/
def fuse : List Piece → List Char × List ProgramColumn
  | [] => ([], [])
  | .character c :: rest =>
    let (literal, columns) := fuse rest
    (c :: literal, columns)
  | .column column :: rest =>
    let (literal, columns) := fuse rest
    ([], column :: withLiteral literal columns)

/-- The columns of a list of pieces: each keyword is a column, and so is each
maximal run of characters. -/
def columnsOf (pieces : List Piece) : List ProgramColumn :=
  let (literal, columns) := fuse pieces
  withLiteral literal columns

/-- The program of a format string under a vocabulary. -/
def compile (v : Vocabulary) (format : String) : Except CompileError Program :=
  let text := format.toList
  (pieces v (byteCount text) text).map fun ps => ⟨columnsOf ps⟩

end Format

end TcpJournal
