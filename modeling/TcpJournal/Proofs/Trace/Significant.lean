import Mathlib.Data.List.Induction
import Mathlib.Logic.Relation
import TcpJournal.Proofs.Bytes.Encoding
import TcpJournal.Proofs.Bytes.Newlines
import TcpJournal.Proofs.Trace.Numbering

/-!
# The significant lines of a trace

Of a trace that is UTF-8 only its significant lines matter: the lines without the white
space around them, unless they are empty then or start with `#`.

`Trace.significantLines` takes them from the text.  Everything about them follows from
one equation: a newline puts the significant lines before it in front of those behind it
(`Trace.significantLines_append_newline`).  So they stay the same when a blank line or a
comment comes or goes, when a line is padded, when a line end changes, and without the
last newline (`Trace.significantLines_eq_of_eqvGen`).  A reader finds what each of them
carries (`Trace.Reader.unnumberedItems_ofText`).
-/

namespace TcpJournal

/-! ## White space around a text -/

namespace Text

theorem trimEnd_append {text right : List Char} (h : ∀ c ∈ right, isWhitespace c = true) :
    trimEnd (text ++ right) = trimEnd text := by
  rw [trimEnd, List.reverse_append, List.dropWhile_append_of_pos (by simpa using h), ← trimEnd]

/-- White space around a text is trimmed away. -/
theorem trim_append {left text right : List Char} (hleft : ∀ c ∈ left, isWhitespace c = true)
    (hright : ∀ c ∈ right, isWhitespace c = true) :
    trim (left ++ text ++ right) = trim text := by
  have hnil : right.dropWhile isWhitespace = [] := List.dropWhile_eq_nil_iff.mpr hright
  rw [trim, trimStart, List.append_assoc, List.dropWhile_append_of_pos hleft,
    List.dropWhile_append, hnil]
  split
  · next hempty => rw [trim, trimStart, List.isEmpty_iff.mp hempty]
  · rw [trimEnd_append hright, trim, trimStart]

end Text

namespace Trace

/-! ## Lines of a text -/

/-- The lines of a text without their ends. -/
def textLines : List Char → List (List Char)
  | [] => []
  | c :: rest =>
    if c = '\n' then [] :: textLines rest
    else
      match textLines rest with
      | [] => [[c]]
      | line :: lines => (c :: line) :: lines

/-- The lines that carry events, without the white space around them. -/
def significantLines (text : List Char) : List (List Char) :=
  ((textLines text).map Text.trim).filter isSignificant

theorem textLines_append_newline {line : List Char} (h : '\n' ∉ line) (rest : List Char) :
    textLines (line ++ '\n' :: rest) = line :: textLines rest := by
  induction line with
  | nil => simp [textLines]
  | cons c line ih =>
    obtain ⟨hc, hline⟩ := not_or.mp (mt List.mem_cons.mpr h)
    rw [List.cons_append, textLines, if_neg (Ne.symm hc), ih hline]

theorem textLines_of_notMem {line : List Char} (h : '\n' ∉ line) :
    textLines line = if line = [] then [] else [line] := by
  induction line with
  | nil => rfl
  | cons c line ih =>
    obtain ⟨hc, hline⟩ := not_or.mp (mt List.mem_cons.mpr h)
    rw [textLines, if_neg (Ne.symm hc), ih hline]
    by_cases hnil : line = []
    · simp [hnil]
    · simp [hnil]

/-- A single line, whether it is ended or not. -/
theorem significantLines_of_notMem {line : List Char} (h : '\n' ∉ line) :
    significantLines line = [Text.trim line].filter isSignificant := by
  rw [significantLines, textLines_of_notMem h]
  split
  · next hnil =>
    rw [hnil]
    rfl
  · rfl

/-- The first line of a text, once it is ended. -/
theorem significantLines_cons {line : List Char} (h : '\n' ∉ line) (rest : List Char) :
    significantLines (line ++ '\n' :: rest) =
      significantLines line ++ significantLines rest := by
  rw [significantLines_of_notMem h, significantLines, textLines_append_newline h, List.map_cons,
    ← List.singleton_append, List.filter_append, ← significantLines]

/-- A newline puts the significant lines before it in front of those behind it. -/
theorem significantLines_append_newline (before after : List Char) :
    significantLines (before ++ '\n' :: after) =
      significantLines before ++ significantLines after := by
  induction hlength : before.length using Nat.strong_induction_on generalizing before with
  | _ n ih =>
    by_cases h : '\n' ∈ before
    · obtain ⟨line, rest, rfl, hline⟩ := List.eq_append_cons_of_mem h
      have hrest : rest.length < n := by
        rw [← hlength, List.length_append, List.length_cons]
        omega
      rw [List.append_assoc, List.cons_append, significantLines_cons hline,
        significantLines_cons hline, ih _ hrest rest rfl, List.append_assoc]
    · exact significantLines_cons h after

/-- The end of the last line does not matter. -/
theorem significantLines_concat_newline (text : List Char) :
    significantLines (text ++ ['\n']) = significantLines text := by
  rw [significantLines_append_newline]
  exact List.append_nil _

/-- A line begins behind the text. -/
def AtLineStart (text : List Char) : Prop :=
  text = [] ∨ ∃ before, text = before ++ ['\n']

/-- A line ends in front of the text. -/
def AtLineEnd (text : List Char) : Prop :=
  text = [] ∨ ∃ after, text = '\n' :: after

theorem AtLineStart.significantLines_append {before : List Char} (h : AtLineStart before)
    (text : List Char) :
    significantLines (before ++ text) = significantLines before ++ significantLines text := by
  obtain rfl | ⟨before, rfl⟩ := h
  · rfl
  · rw [List.append_assoc, List.singleton_append, significantLines_append_newline,
      significantLines_concat_newline]

theorem AtLineEnd.significantLines_append {after : List Char} (h : AtLineEnd after)
    (text : List Char) :
    significantLines (text ++ after) = significantLines text ++ significantLines after := by
  obtain rfl | ⟨after, rfl⟩ := h
  · rw [List.append_nil]
    exact (List.append_nil _).symm
  · rw [significantLines_append_newline, ← List.nil_append ('\n' :: after),
      significantLines_append_newline]
    rfl

/-- A text ends inside a line, which may be empty. -/
theorem exists_atLineStart (text : List Char) :
    ∃ before line, text = before ++ line ∧ AtLineStart before ∧ '\n' ∉ line := by
  induction text using List.reverseRecOn with
  | nil => exact ⟨[], [], rfl, Or.inl rfl, List.not_mem_nil⟩
  | append_singleton text c ih =>
    by_cases hc : c = '\n'
    · exact ⟨text ++ [c], [], (List.append_nil _).symm, Or.inr ⟨text, by rw [hc]⟩, List.not_mem_nil⟩
    · obtain ⟨before, line, rfl, hbefore, hline⟩ := ih
      refine ⟨before, line ++ [c], List.append_assoc .., hbefore, ?_⟩
      rw [List.mem_append, List.mem_singleton, not_or]
      exact ⟨hline, Ne.symm hc⟩

/-! ## Changes that leave the significant lines -/

theorem significantLines_pad {left line right : List Char}
    (hline : '\n' ∉ left ++ line ++ right)
    (hleft : ∀ c ∈ left, Text.isWhitespace c = true)
    (hright : ∀ c ∈ right, Text.isWhitespace c = true) :
    significantLines (left ++ line ++ right) = significantLines line := by
  have hinner : '\n' ∉ line := fun h => hline (by simp [h])
  rw [significantLines_of_notMem hline, significantLines_of_notMem hinner,
    Text.trim_append hleft hright]

theorem significantLines_concat_return (text : List Char) :
    significantLines (text ++ ['\r']) = significantLines text := by
  obtain ⟨before, line, rfl, hbefore, hline⟩ := exists_atLineStart text
  have hreturn : significantLines ([] ++ line ++ ['\r']) = significantLines line :=
    significantLines_pad (by simpa using hline) (by simp) (List.forall_mem_singleton.mpr rfl)
  rw [List.append_assoc, hbefore.significantLines_append, hbefore.significantLines_append]
  exact congrArg _ hreturn

/-- A change of a trace that touches no significant line. -/
inductive Retouch : List Char → List Char → Prop
  /-- A line that is blank or a comment comes in. -/
  | insert {before line after : List Char} (hbefore : AtLineStart before) (hline : '\n' ∉ line)
      (hidle : isSignificant (Text.trim line) = false) :
      Retouch (before ++ after) (before ++ (line ++ '\n' :: after))
  /-- White space comes around a line. -/
  | pad {before left line right after : List Char} (hbefore : AtLineStart before)
      (hline : '\n' ∉ left ++ line ++ right) (hafter : AtLineEnd after)
      (hleft : ∀ c ∈ left, Text.isWhitespace c = true)
      (hright : ∀ c ∈ right, Text.isWhitespace c = true) :
      Retouch (before ++ (line ++ after)) (before ++ (left ++ line ++ right ++ after))
  /-- A carriage return comes in front of the end of a line. -/
  | carriageReturn (before after : List Char) :
      Retouch (before ++ '\n' :: after) (before ++ '\r' :: '\n' :: after)
  /-- The end of the last line is left out. -/
  | endOfText (text : List Char) : Retouch (text ++ ['\n']) text

theorem Retouch.significantLines_eq {text other : List Char} (h : Retouch text other) :
    significantLines text = significantLines other := by
  cases h with
  | @insert before line after hbefore hline hidle =>
    have hnone : significantLines line = [] := by
      rw [significantLines_of_notMem hline]
      simp [hidle]
    rw [hbefore.significantLines_append, hbefore.significantLines_append,
      significantLines_append_newline, hnone, List.nil_append]
  | @pad before left line right after hbefore hline hafter hleft hright =>
    rw [hbefore.significantLines_append, hbefore.significantLines_append,
      hafter.significantLines_append, hafter.significantLines_append,
      significantLines_pad hline hleft hright]
  | carriageReturn before after =>
    rw [List.append_cons before '\r', significantLines_append_newline,
      significantLines_append_newline, significantLines_concat_return]
  | endOfText => exact significantLines_concat_newline _

/-- Any number of such changes, in either direction, leaves the significant lines. -/
theorem significantLines_eq_of_eqvGen {text other : List Char}
    (h : Relation.EqvGen Retouch text other) : significantLines text = significantLines other := by
  induction h with
  | rel _ _ h => exact h.significantLines_eq
  | refl => rfl
  | symm _ _ _ ih => exact ih.symm
  | trans _ _ _ _ _ hfirst hsecond => exact hfirst.trans hsecond

/-! ## Reading the significant lines -/

/-- Bytes that hold no newline go on with the line behind them. -/
theorem physicalLines_append_of_notMem {bytes : Bytes} (h : Bytes.newline ∉ bytes)
    (hne : bytes ≠ []) (rest : Bytes) :
    physicalLines (bytes ++ rest) =
      match physicalLines rest with
      | [] => [bytes]
      | line :: lines => (bytes ++ line) :: lines := by
  induction bytes with
  | nil => exact absurd rfl hne
  | cons b bytes ih =>
    obtain ⟨hb, hbytes⟩ := not_or.mp (mt List.mem_cons.mpr h)
    rw [List.cons_append, physicalLines, if_neg (Ne.symm hb)]
    by_cases hnil : bytes = []
    · rw [hnil]
      rfl
    · rw [ih hbytes hnil]
      cases physicalLines rest <;> rfl

theorem utf8EncodeChar_newline : String.utf8EncodeChar '\n' = [Bytes.newline] := by decide

/-- The lines of an encoded text are those of the text. -/
theorem physicalLines_ofText (text : List Char) :
    physicalLines (Bytes.ofText text) = (textLines text).map Bytes.ofText := by
  induction text with
  | nil => rfl
  | cons c text ih =>
    rw [Bytes.ofText_cons, textLines]
    split
    · next hc =>
      rw [hc, utf8EncodeChar_newline, List.singleton_append, physicalLines, if_pos rfl, ih]
      rfl
    · next hc =>
      have hnewline : Bytes.newline ∉ String.utf8EncodeChar c := by
        rw [Bytes.mem_utf8EncodeChar_iff (by decide)]
        exact fun h => hc (Char.toNat_inj.mp h)
      rw [physicalLines_append_of_notMem hnewline (Bytes.utf8EncodeChar_ne_nil c), ih]
      cases textLines text <;> simp [Bytes.ofText]

/-- Only a carriage return is encoded with the byte of one at the end. -/
theorem getLast?_ofText_ne {line : List Char} (h : line.getLast? ≠ some '\r') :
    (Bytes.ofText line).getLast? ≠ some Bytes.carriageReturn := by
  cases line using List.reverseRecOn with
  | nil => simp [Bytes.ofText]
  | append_singleton text c =>
    intro hlast
    have hchar : Bytes.ofText [c] = String.utf8EncodeChar c := List.flatMap_singleton ..
    rw [Bytes.ofText_append, hchar,
      List.getLast?_append_of_ne_nil _ (Bytes.utf8EncodeChar_ne_nil c)] at hlast
    have hmem := List.mem_of_getLast? hlast
    rw [Bytes.mem_utf8EncodeChar_iff (by decide)] at hmem
    have hc : c = '\r' := Char.toNat_inj.mp hmem
    simp [hc] at h

/-- A line of an encoded text is read as its text without the white space around it. -/
theorem lineText?_ofText (line : List Char) :
    lineText? (Bytes.ofText line) = some (Text.trim line) := by
  unfold lineText? Bytes.withoutReturn
  by_cases h : line.getLast? = some '\r'
  · obtain ⟨before, rfl⟩ := List.getLast?_eq_some_iff.mp h
    have htrim : Text.trim ([] ++ before ++ ['\r']) = Text.trim before :=
      Text.trim_append (by simp) (List.forall_mem_singleton.mpr rfl)
    have hline : Bytes.ofText (before ++ ['\r']) = Bytes.ofText before ++ [Bytes.carriageReturn] :=
      Bytes.ofText_append before ['\r']
    rw [hline, List.getLast?_concat, if_pos rfl, List.dropLast_concat, Bytes.toText?_ofText,
      Option.map_some, ← htrim, List.nil_append]
  · rw [if_neg (getLast?_ofText_ne h), Bytes.toText?_ofText, Option.map_some]

/-- What a significant line carries: an event, or an error without a number. -/
def significantItem (line : List Char) : Except ReadError Event :=
  match parseLine? line with
  | some event => .ok event
  | none => .error (.badLine 0)

/-- An error without the number of its line. -/
def withoutNumber : ReadError → ReadError
  | .badLine _ => .badLine 0
  | cause => cause

theorem lineItem?_ofText (number : Nat) (line : List Char) :
    (lineItem? number (Bytes.ofText line)).map (Except.mapError withoutNumber) =
      if isSignificant (Text.trim line) then some (significantItem (Text.trim line)) else none := by
  unfold lineItem? isReadable lineEvent? lineError significantItem
  rw [lineText?_ofText]
  simp only [Option.bind_some, reduceCtorEq, if_false]
  cases isSignificant (Text.trim line) with
  | false => rfl
  | true => cases parseLine? (Text.trim line) <;> rfl

namespace Reader

/-- What a reader finds, without the numbers of lines. -/
def unnumberedItems (reader : Reader) : List (Except ReadError Event) :=
  reader.items.1.map fun item => item.2.mapError withoutNumber

/-- A reader of a text finds what its significant lines carry, in order. -/
theorem unnumberedItems_ofText (text : List Char) :
    (ofBytes (Bytes.ofText text)).unnumberedItems =
      (significantLines text).map significantItem := by
  rw [unnumberedItems, fst_items, ofBytes, physicalLines_ofText, significantLines]
  generalize textLines text = lines
  generalize 0 = number
  induction lines generalizing number with
  | nil => rw [List.map_nil, answers_nil]; rfl
  | cons line lines ih =>
    have hitem := lineItem?_ofText (number + 1) line
    rw [List.map_cons, answers_cons, List.map_append, List.map_append, behind, ih, List.map_cons,
      List.filter_cons]
    cases hsignificant : isSignificant (Text.trim line) with
    | false =>
      rw [hsignificant] at hitem
      rw [Option.map_eq_none_iff.mp hitem]
      rfl
    | true =>
      rw [hsignificant] at hitem
      obtain ⟨item, hread, hcarried⟩ := Option.map_eq_some_iff.mp hitem
      rw [hread, if_pos rfl, List.map_cons, ← hcarried]
      rfl

end Reader

end Trace

end TcpJournal
