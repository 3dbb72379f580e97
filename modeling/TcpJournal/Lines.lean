import TcpJournal.Bytes

/-!
# First line and header lines of a byte stream

A line is what stands before a newline, less one carriage return at its end.
`Bytes.firstLine?` and `Bytes.headerLines?` look at a stream received so far:
they answer only once the newline, or the empty line, that completes their unit
has arrived, so they may be asked again about a longer stream.
-/

namespace TcpJournal

namespace Bytes

/-- The bytes before the first newline and those after it, once there is one. -/
def splitLine? : Bytes → Option (Bytes × Bytes)
  | [] => none
  | b :: rest =>
    if b = newline then some ([], rest)
    else (splitLine? rest).map fun (line, after) => (b :: line, after)

theorem length_lt_of_splitLine? {bytes line rest : Bytes}
    (h : splitLine? bytes = some (line, rest)) : rest.length < bytes.length := by
  induction bytes generalizing line with
  | nil => simp [splitLine?] at h
  | cons b tail ih =>
    rw [splitLine?] at h
    split at h
    · cases h
      simp
    · obtain ⟨⟨l, r⟩, hl, he⟩ := Option.map_eq_some_iff.1 h
      cases he
      exact Nat.lt_succ_of_lt (ih hl)

/-- A line without the carriage return that may end it. -/
def withoutReturn (line : Bytes) : Bytes :=
  if line.getLast? = some carriageReturn then line.dropLast else line

/-- The first line, once its newline has arrived. -/
def firstLine? (bytes : Bytes) : Option Bytes :=
  (splitLine? bytes).map fun (line, _) => withoutReturn line

/-- The lines before the first empty one, once that has arrived. -/
def linesToBlank? (bytes : Bytes) : Option (List Bytes) :=
  match _h : splitLine? bytes with
  | none => none
  | some (line, rest) =>
    let line := withoutReturn line
    if line = [] then some []
    else (linesToBlank? rest).map (line :: ·)
termination_by bytes.length
decreasing_by exact length_lt_of_splitLine? _h

/-- The lines between the first line and the empty line that ends the header,
once that empty line has arrived. -/
def headerLines? (bytes : Bytes) : Option (List Bytes) :=
  match splitLine? bytes with
  | none => none
  | some (_, rest) => linesToBlank? rest

end Bytes

end TcpJournal
