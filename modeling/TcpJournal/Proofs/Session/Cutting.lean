import TcpJournal.Proofs.Session.Delivered
import TcpJournal.Proofs.TimePattern.OneLine

/-!
# Cutting the output of a session into its records

A record is written with a newline behind it.  Where no column can write a newline
of its own, cutting the output at newlines gives back the records, and nothing is
left behind the last one.

The columns that can write a newline are those of raw payload, and texts and time
patterns that have one in them (`Column.IsOneLine`).  Captured lines and headers,
addresses, counts, statuses and durations never do, whatever the payload is.
-/

namespace TcpJournal

namespace Bytes

/-- Lines that were written with a newline behind each are cut into these lines,
with nothing behind the last newline. -/
theorem splitOn_newline_flatMap {lines : List Bytes} (h : ∀ line ∈ lines, newline ∉ line) :
    (lines.flatMap fun line => line ++ [newline]).splitOn newline = lines ++ [[]] := by
  induction lines with
  | nil => rfl
  | cons line rest ih =>
    obtain ⟨hline, hrest⟩ := List.forall_mem_cons.mp h
    rw [List.flatMap_cons, List.append_assoc, List.singleton_append,
      List.splitOn_append_cons_self_of_not_mem hline, ih hrest, List.cons_append]

/-- The filter makes no newline. -/
theorem newline_notMem_sanitized {bytes : Bytes} (h : newline ∉ bytes) :
    newline ∉ sanitized bytes := by
  intro hmem
  obtain ⟨b, hb, hprintable⟩ := List.mem_map.mp hmem
  rw [printable_eq_newline_iff.mp hprintable] at hb
  exact h hb

end Bytes

/-- The column shows no raw payload, and no newline stands in its text or in its time
pattern, where `%n` would also write one. -/
def Column.IsOneLine : Column → Prop
  | .text content => '\n' ∉ content.toList
  | .payload _ => False
  | .payloadTime _ pattern | .writtenTime pattern => pattern.IsOneLine
  | .address _ | .port _ | .closer | .status | .capture .. | .size _ | .span _ => True

namespace Field

/-- The text of a time has no newline under a pattern that has none. -/
theorem newline_notMem_getD_render {pattern : TimePattern} (h : pattern.IsOneLine)
    (t : Instant) : Bytes.newline ∉ ((pattern.render t).map Bytes.ofText).getD [] := by
  cases htext : pattern.render t with
  | none => exact List.not_mem_nil
  | some text =>
    exact mt Bytes.newline_mem_ofText_iff.mp (TimePattern.newline_notMem_of_render h htext)

/-- A field has no newline if its column is one on a line; what has been captured is
looked at apart, since that depends on the events. -/
theorem newline_notMem_shown {f : Field} (h : f.column.IsOneLine)
    (hcapture : ∀ direction unit, f.column ≠ .capture direction unit) (written : Instant) :
    Bytes.newline ∉ f.shown written := by
  cases f with
  | text content => exact mt Bytes.newline_mem_ofText_iff.mp h
  | address direction first =>
    exact mt Bytes.newline_mem_ofText_iff.mp (Address.newline_notMem_text _)
  | port direction first => exact Bytes.newline_notMem_digits _
  | closer c =>
    apply mt Bytes.newline_mem_ofText_iff.mp
    unfold Closer.text
    split
    · exact Address.newline_notMem_text _
    · decide
  | status s =>
    apply mt Bytes.newline_mem_ofText_iff.mp
    cases s <;> decide
  | capture direction c => exact absurd rfl (hcapture direction c.unit)
  | payload direction kept => exact absurd h id
  | size direction count => exact Bytes.newline_notMem_digits _
  | payloadTime direction pattern latest => exact newline_notMem_getD_render h _
  | writtenTime pattern => exact newline_notMem_getD_render h _
  | span s anchors =>
    exact mt Bytes.newline_mem_ofText_iff.mp (Span.newline_notMem_text s anchors written)

/-- What a column on one line shows has no newline, whatever it has observed. -/
theorem newline_notMem_shown_observeAll {c : Column} (h : c.IsOneLine) (events : List Event)
    (written : Instant) : Bytes.newline ∉ ((start c).observeAll events).shown written := by
  have hcolumn : ((start c).observeAll events).column = c := by
    rw [column_observeAll, column_start]
  cases c with
  | capture direction unit => exact newline_notMem_shown_capture direction unit events written
  | text | address | port | closer | status | payload | size | payloadTime | writtenTime | span =>
    apply newline_notMem_shown
    · rwa [hcolumn]
    · rw [hcolumn]
      nofun

end Field

namespace Session

variable {program : Program}

/-- The records of a session have no newlines if its columns are on one line. -/
theorem newline_notMem_of_mem_records (hprogram : program.Renders)
    (hline : ∀ c ∈ program.columns, c.column.IsOneLine) {events : List Event} {record : Bytes}
    (h : record ∈ records program events) : Bytes.newline ∉ record := by
  obtain ⟨call, hcall, hdelivered⟩ := List.mem_filterMap.mp h
  obtain ⟨past, close, -, -, rfl⟩ := exists_close_of_mem_calls hcall
  rw [delivered?_closing hprogram past close] at hdelivered
  cases hdelivered
  intro hmem
  obtain ⟨c, hc, hnewline⟩ := List.mem_flatMap.mp hmem
  exact Bytes.newline_notMem_sanitized
    (Field.newline_notMem_shown_observeAll (hline c hc) _ _) hnewline

/-- The record of a close stands in the place of the close among all closes. -/
theorem getElem?_records (hprogram : program.Renders) (before after : List Event) {close : Event}
    (h : close.kind = .closed) :
    (records program (before ++ close :: after))[
        (before.filter fun e => e.kind = .closed).length]? =
      PrintCall.delivered? ⟨(Flow.closing program before close).fields, close.time⟩ := by
  have hall : ∀ call ∈ calls program (before ++ close :: after),
      call.delivered? = some (call.delivered?.getD []) := by
    intro call hcall
    obtain ⟨past, e, -, -, rfl⟩ := exists_close_of_mem_calls hcall
    rw [delivered?_closing hprogram past e, Option.getD_some]
  rw [records, List.filterMap_congr hall, List.filterMap_eq_map', List.getElem?_map,
    getElem?_calls program before after h, Option.map_some, ← hall]
  exact List.mem_of_getElem? (getElem?_calls program before after h)

/-- A program without columns of raw payload, with no newline in its texts and in its
time patterns, writes one line for each close: cut at newlines, what a writer that
never fails takes from the session are as many lines as there are closes with nothing
behind them, and each line is the sanitized record of its close. -/
theorem splitOn_newline_of_isOneLine (hprogram : program.Renders)
    (hline : ∀ c ∈ program.columns, c.column.IsOneLine) (events : List Event) {ω : Type}
    {writer : Writer ω} {good : ω → Prop} {taken : ω → Bytes}
    (hwriter : writer.Reliable good taken) {state : ω} (hstate : good state) :
    let later := ((start program state).handleAll writer.printer events).printer
    ∃ (written : Bytes) (lines : List Bytes), taken later = taken state ++ written ∧
      written.splitOn Bytes.newline = lines ++ [[]] ∧
      lines.length = (events.filter fun e => e.kind = .closed).length ∧
      ∀ before close after, events = before ++ close :: after → close.kind = .closed →
        ∃ raw, (Flow.closing program before close).render close.time = some raw ∧
          lines[(before.filter fun e => e.kind = .closed).length]? = some raw.sanitized := by
  intro later
  refine ⟨output program events, records program events,
    hwriter.taken_handleAll hstate program events, ?_, length_records hprogram events, ?_⟩
  · rw [output_eq_flatMap_records]
    exact Bytes.splitOn_newline_flatMap fun record hrecord =>
      newline_notMem_of_mem_records hprogram hline hrecord
  · rintro before close after rfl hclose
    obtain ⟨raw, hraw⟩ := Option.ne_none_iff_exists'.mp
      (Flow.render_ne_none_of_renders hprogram close.id _ close.time)
    refine ⟨raw, hraw, ?_⟩
    rw [getElem?_records hprogram before after hclose, PrintCall.delivered?, Field.record]
    exact congrArg (Option.map Bytes.sanitized) hraw

/-- Three lines of payload and two closes leave two lines of output: the first of the
payload with the address that closed the connection, and a line for the close without
any payload. -/
theorem splitOn_newline_of_two_closes :
    let id : Connection := ⟨.v4 0x0A000001 40000, .v4 0x0A000002 80⟩
    let program : Program :=
      ⟨[⟨"reqline", none, .capture .request .firstLine⟩, .literal " by ", ⟨"closer", none, .closer⟩]⟩
    let events : List Event :=
      [⟨id, .epoch, .request (Bytes.ofString "GET /\r\nHost: a\n\n")⟩, ⟨id, .epoch, .closed []⟩,
        ⟨id, .epoch, .closed []⟩]
    let written :=
      ((start program (.unlimited [])).handleAll Stream.writer.printer events).printer.written
    ∃ lines, written.splitOn Bytes.newline = lines ++ [[]] ∧ lines.length = 2 ∧
      lines[0]? = some (Bytes.ofString "GET / by unknown") ∧
      lines[1]? = some (Bytes.ofString " by unknown") := by
  intro id program events written
  have hprogram : program.Renders :=
    Program.renders_iff.mpr (by simp [program, ProgramColumn.literal, Column.pattern?])
  have hline : ∀ c ∈ program.columns, c.column.IsOneLine := by
    simp [program, ProgramColumn.literal, Column.IsOneLine]
  have hunlimited : (Stream.unlimited []).room = none ∧ (Stream.unlimited []).flushes = true :=
    ⟨rfl, rfl⟩
  obtain ⟨output, lines, htaken, hsplit, hlength, hlines⟩ :=
    splitOn_newline_of_isOneLine hprogram hline events Stream.reliable_writer hunlimited
  have hwritten : written = output := htaken
  obtain ⟨first, hfirst, hfirstLine⟩ := hlines [_] _ [_] rfl rfl
  obtain ⟨second, hsecond, hsecondLine⟩ := hlines [_, _] _ [] rfl rfl
  have hfirstText : some (Bytes.ofString "GET / by unknown") = some first :=
    Eq.trans (by decide) hfirst
  have hsecondText : some (Bytes.ofString " by unknown") = some second :=
    Eq.trans (by decide) hsecond
  refine ⟨lines, hwritten ▸ hsplit, hlength, hfirstLine.trans ?_, hsecondLine.trans ?_⟩
  · rw [← Option.some.inj hfirstText]
    decide
  · rw [← Option.some.inj hsecondText]
    decide

end Session

end TcpJournal
