import Mathlib.Data.List.Basic
import Mathlib.Data.List.TakeWhile
import TcpJournal.Trace

/-!
# What a trace holds

A line of a trace is readable if it is UTF-8 and, unless it is blank or a
comment, carries an event.  What counts in a trace is what stands before its
first line that is not readable: the events of these lines, and the error of
that one line, if there is one.

The main statement (`Trace.Reader.itemsTo_eq`) says that a reader that is asked again
and again hands out just this, and that it numbers lines as they stand in the
stream, blank lines and comments included.
-/

namespace TcpJournal

namespace Trace

/-- The text of a line, without its end and the blanks around it. -/
def lineText? (line : Bytes) : Option (List Char) :=
  (Bytes.withoutReturn line).toText?.map Text.trim

/-- The line is UTF-8. -/
def isText (line : Bytes) : Bool :=
  (lineText? line).isSome

/-- A line that a reader gets over, with an event or without one. -/
def isReadable (line : Bytes) : Bool :=
  match lineText? line with
  | none => false
  | some text => !isSignificant text || (parseLine? text).isSome

/-- The event of a significant line. -/
def lineEvent? (line : Bytes) : Option Event :=
  (lineText? line).bind fun text => if isSignificant text then parseLine? text else none

/-- What is wrong with a line that is not readable and has a number. -/
def lineError (number : Nat) (line : Bytes) : ReadError :=
  if lineText? line = none then .notText else .badLine number

/-- The events before the first line that is not readable. -/
def eventsIn (lines : List Bytes) : List Event :=
  (lines.takeWhile isReadable).filterMap lineEvent?

/-- The error of the first line that is not readable, for lines behind some
others. -/
def errorIn? (lines : List Bytes) (number : Nat) : Option ReadError :=
  (lines.dropWhile isReadable).head?.map
    (lineError (number + (lines.takeWhile isReadable).length + 1))

/-- The events of a trace before its first line that is not readable. -/
def events (stream : Bytes) : List Event := eventsIn (physicalLines stream)

/-- The error of the first line of a trace that is not readable. -/
def error? (stream : Bytes) : Option ReadError := errorIn? (physicalLines stream) 0

section ReadLine

variable {line : Bytes}

theorem isText_of_isReadable (h : isReadable line = true) : isText line = true := by
  unfold isReadable at h
  unfold isText
  split at h
  · cases h
  · next htext => rw [htext, Option.isSome_some]

theorem readLine_of_isReadable (h : isReadable line = true) (number : Nat) :
    readLine number line = (number + 1, (lineEvent? line).map .ok) := by
  unfold isReadable lineText? at h
  unfold readLine lineEvent? lineText?
  cases htext : (Bytes.withoutReturn line).toText? with
  | none =>
    rw [htext] at h
    cases h
  | some text =>
    rw [htext] at h
    simp only [Option.map_some, Option.bind_some] at h ⊢
    by_cases hsignificant : isSignificant (Text.trim text) = true
    · rw [if_pos hsignificant, if_pos hsignificant]
      obtain ⟨event, hevent⟩ := Option.isSome_iff_exists.mp (by simpa [hsignificant] using h)
      rw [hevent]
      rfl
    · rw [if_neg hsignificant, if_neg hsignificant]
      rfl

theorem readLine_of_not_isReadable (h : isReadable line = false) (number : Nat) :
    readLine number line =
      (if isText line then number + 1 else number,
        some (.error (lineError (number + 1) line))) := by
  unfold isReadable lineText? at h
  unfold readLine lineError isText lineText?
  cases htext : (Bytes.withoutReturn line).toText? with
  | none => rfl
  | some text =>
    rw [htext] at h
    simp only [Option.map_some, Bool.or_eq_false_iff, Bool.not_eq_false',
      Option.isSome_eq_false_iff, Option.isNone_iff_eq_none] at h
    simp [h.1, h.2]

end ReadLine

section Prefix

variable {line : Bytes} {rest : List Bytes}

theorem eventsIn_cons_of_isReadable (h : isReadable line = true) :
    eventsIn (line :: rest) = (lineEvent? line).toList ++ eventsIn rest := by
  rw [eventsIn, List.takeWhile_cons_of_pos h, List.filterMap_cons, ← eventsIn]
  cases lineEvent? line with
  | none => rfl
  | some event => rfl

theorem eventsIn_cons_of_not_isReadable (h : isReadable line = false) :
    eventsIn (line :: rest) = [] := by
  rw [eventsIn, List.takeWhile_cons_of_neg (by simp [h]), List.filterMap_nil]

theorem errorIn?_cons_of_isReadable (h : isReadable line = true) (number : Nat) :
    errorIn? (line :: rest) number = errorIn? rest (number + 1) := by
  rw [errorIn?, List.takeWhile_cons_of_pos h, List.dropWhile_cons_of_pos h, errorIn?,
    List.length_cons]
  congr 2
  omega

theorem errorIn?_cons_of_not_isReadable (h : isReadable line = false) (number : Nat) :
    errorIn? (line :: rest) number = some (lineError (number + 1) line) := by
  have hnot : ¬isReadable line = true := by simp [h]
  rw [errorIn?, List.takeWhile_cons_of_neg hnot, List.dropWhile_cons_of_neg hnot]
  rfl

end Prefix

/-- Events in order, and behind them an error, if there is one. -/
def itemsOf (events : List Event) (error? : Option ReadError) : List (Except ReadError Event) :=
  events.map .ok ++ error?.toList.map .error

section ItemsOf

variable {events : List Event} {error? : Option ReadError} {items : List (Except ReadError Event)}

theorem itemsOf_eq_nil_iff : itemsOf events error? = [] ↔ events = [] ∧ error? = none := by
  simp [itemsOf]

/-- An error can only stand behind all events. -/
theorem eq_of_itemsOf_eq_cons_error {cause : ReadError}
    (h : itemsOf events error? = .error cause :: items) : events = [] ∧ error? = some cause := by
  cases events with
  | cons event rest => cases h
  | nil =>
    cases error? with
    | none => cases h
    | some first =>
      cases h
      exact ⟨rfl, rfl⟩

theorem exists_eq_of_itemsOf_eq_cons_ok {event : Event}
    (h : itemsOf events error? = .ok event :: items) :
    ∃ rest, events = event :: rest ∧ items = itemsOf rest error? := by
  cases events with
  | nil => cases error? <;> cases h
  | cons first rest =>
    cases h
    exact ⟨rest, rfl, rfl⟩

end ItemsOf

/-- What lines behind some others hold, up to the first error. -/
def itemsTo (lines : List Bytes) (number : Nat) : List (Except ReadError Event) :=
  itemsOf (eventsIn lines) (errorIn? lines number)

theorem itemsTo_cons_of_isReadable
    {line : Bytes} (h : isReadable line = true) (rest : List Bytes) (number : Nat) :
    itemsTo (line :: rest) number =
      (lineEvent? line).toList.map .ok ++ itemsTo rest (number + 1) := by
  rw [itemsTo, eventsIn_cons_of_isReadable h, errorIn?_cons_of_isReadable h, itemsOf,
    List.map_append, List.append_assoc, itemsTo, itemsOf]

theorem itemsTo_cons_of_not_isReadable
    {line : Bytes} (h : isReadable line = false) (rest : List Bytes) (number : Nat) :
    itemsTo (line :: rest) number = [.error (lineError (number + 1) line)] := by
  rw [itemsTo, eventsIn_cons_of_not_isReadable h, errorIn?_cons_of_not_isReadable h]
  rfl

namespace Reader

/-- What a reader has still to hand out, up to the first error. -/
def left (reader : Reader) : List (Except ReadError Event) :=
  itemsTo reader.lines reader.number

theorem left_ofBytes (stream : Bytes) :
    (ofBytes stream).left = itemsOf (events stream) (error? stream) :=
  rfl

/-- The first of what lines hold is what a reader hands out next. -/
theorem itemsTo_eq (lines : List Bytes) (number : Nat) :
    itemsTo lines number =
      match nextIn lines number with
      | (none, _) => []
      | (some (.ok event), reader) => .ok event :: reader.left
      | (some (.error cause), _) => [.error cause] := by
  induction lines generalizing number with
  | nil => rfl
  | cons line rest ih =>
    rw [nextIn]
    cases hreadable : isReadable line with
    | false =>
      rw [itemsTo_cons_of_not_isReadable hreadable]
      rw [readLine_of_not_isReadable hreadable]
    | true =>
      rw [itemsTo_cons_of_isReadable hreadable, readLine_of_isReadable hreadable]
      cases lineEvent? line with
      | none => exact ih (number + 1)
      | some event => rfl

/-- Whatever a reader hands out, it has used up a line for it. -/
theorem length_lines_lt_of_nextIn
    {lines : List Bytes} {number : Nat} {item : Except ReadError Event} {reader : Reader}
    (h : nextIn lines number = (some item, reader)) :
    reader.lines.length < lines.length := by
  induction lines generalizing number with
  | nil => cases h
  | cons line rest ih =>
    rw [nextIn] at h
    split at h
    · cases h
      exact Nat.lt_succ_self _
    · exact Nat.lt_succ_of_lt (ih h)

end Reader

section FirstError

theorem errorIn?_eq_none_iff {lines : List Bytes} {number : Nat} :
    errorIn? lines number = none ↔ ∀ line ∈ lines, isReadable line = true := by
  rw [errorIn?, Option.map_eq_none_iff, List.head?_eq_none_iff, List.dropWhile_eq_nil_iff]

/-- The first line that is not readable, with the lines before and after it. -/
theorem exists_line_of_errorIn?
    {lines : List Bytes} {number : Nat} {cause : ReadError}
    (h : errorIn? lines number = some cause) :
    ∃ before line after, lines = before ++ line :: after ∧
      (∀ earlier ∈ before, isReadable earlier = true) ∧ isReadable line = false ∧
      eventsIn lines = before.filterMap lineEvent? ∧
      cause = lineError (number + before.length + 1) line := by
  obtain ⟨line, hline, rfl⟩ := Option.map_eq_some_iff.mp h
  refine ⟨lines.takeWhile isReadable, line, (lines.dropWhile isReadable).tail, ?_, ?_, ?_,
    rfl, rfl⟩
  · rw [List.cons_head?_tail hline, List.takeWhile_append_dropWhile]
  · intro earlier hearlier
    exact List.mem_takeWhile_imp hearlier
  · simpa [hline] using List.head?_dropWhile_not isReadable lines

end FirstError

section Physical

theorem newline_notMem_of_mem_physicalLines {stream line : Bytes}
    (h : line ∈ physicalLines stream) : Bytes.newline ∉ line := by
  induction stream generalizing line with
  | nil => cases h
  | cons b rest ih =>
    rw [physicalLines] at h
    split at h
    · rcases List.mem_cons.mp h with rfl | hmem
      · exact List.not_mem_nil
      · exact ih hmem
    · next hb =>
      split at h
      · rw [List.mem_singleton.mp h, List.mem_singleton]
        exact Ne.symm hb
      · next first lines hlines =>
        rcases List.mem_cons.mp h with rfl | hmem
        · rw [List.mem_cons, not_or]
          exact ⟨Ne.symm hb, ih (by simp [hlines])⟩
        · exact ih (by simp [hlines, hmem])

/-- The bytes before a line are the lines before it, each with a newline behind it. -/
theorem exists_eq_of_physicalLines {stream : Bytes} {before : List Bytes} {line : Bytes}
    {after : List Bytes} (h : physicalLines stream = before ++ line :: after) :
    ∃ rest, stream = before.flatMap (fun l => l ++ [Bytes.newline]) ++ (line ++ rest) := by
  induction stream generalizing before line with
  | nil => simp [physicalLines] at h
  | cons b tail ih =>
    rw [physicalLines] at h
    split at h
    · next hb =>
      subst hb
      cases before with
      | nil =>
        obtain ⟨rfl, -⟩ := List.cons.inj h
        exact ⟨Bytes.newline :: tail, rfl⟩
      | cons first before =>
        obtain ⟨rfl, hlines⟩ := List.cons.inj h
        obtain ⟨rest, rfl⟩ := ih hlines
        exact ⟨rest, by simp⟩
    · split at h
      · next hnil =>
        cases before with
        | nil =>
          obtain ⟨rfl, -⟩ := List.cons.inj h
          exact ⟨tail, rfl⟩
        | cons first before => simp at h
      · next first lines hlines =>
        cases before with
        | nil =>
          obtain ⟨rfl, rfl⟩ := List.cons.inj h
          have hfirst : physicalLines tail = [] ++ first :: lines := hlines
          obtain ⟨rest, rfl⟩ := ih hfirst
          exact ⟨rest, by simp⟩
        | cons head before =>
          obtain ⟨rfl, rfl⟩ := List.cons.inj h
          have hfirst : physicalLines tail = (first :: before) ++ line :: after := hlines
          obtain ⟨rest, rfl⟩ := ih hfirst
          exact ⟨rest, by simp⟩

theorem count_newline_flatMap {lines : List Bytes} (h : ∀ line ∈ lines, Bytes.newline ∉ line) :
    (lines.flatMap fun l => l ++ [Bytes.newline]).count Bytes.newline = lines.length := by
  induction lines with
  | nil => rfl
  | cons line rest ih =>
    obtain ⟨hline, hrest⟩ := List.forall_mem_cons.mp h
    rw [List.flatMap_cons, List.count_append, List.count_append, List.count_eq_zero.mpr hline,
      ih hrest, List.count_singleton_self, List.length_cons]
    omega

/-- The number of a line counts the newlines before it. -/
theorem exists_count_newline_of_physicalLines {stream : Bytes} {before : List Bytes}
    {line : Bytes} {after : List Bytes} (h : physicalLines stream = before ++ line :: after) :
    ∃ earlier later, stream = earlier ++ (line ++ later) ∧
      earlier.count Bytes.newline = before.length := by
  obtain ⟨later, hstream⟩ := exists_eq_of_physicalLines h
  refine ⟨_, later, hstream, count_newline_flatMap fun l hl => ?_⟩
  have hmem : l ∈ physicalLines stream := by simp [h, hl]
  exact newline_notMem_of_mem_physicalLines hmem

end Physical

end Trace

end TcpJournal
