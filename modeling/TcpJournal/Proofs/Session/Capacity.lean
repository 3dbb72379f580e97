import TcpJournal.Proofs.Delivery.Failure
import TcpJournal.Proofs.Session.Transcript

/-!
# Sessions on a writer with limited room

A writer with limited room takes the front of the output that the session would
have without a limit, and not a byte behind it.  The records whose lines end
within the room are delivered and all later ones are dropped.  Nothing else in
the session notices the limit.
-/

namespace TcpJournal

namespace Bytes

/-- The places where the lines of a text end, counted from its start. -/
def lineEnds (lines : List Bytes) : List Nat :=
  (List.range lines.length).map fun k => (lines.take (k + 1)).flatten.length

theorem lineEnds_concat (lines : List Bytes) (line : Bytes) :
    lineEnds (lines ++ [line]) = lineEnds lines ++ [(lines ++ [line]).flatten.length] := by
  have hearlier : ∀ k ∈ List.range lines.length,
      ((lines ++ [line]).take (k + 1)).flatten.length =
        (lines.take (k + 1)).flatten.length := by
    intro k hk
    rw [List.take_append_of_le_length (List.mem_range.mp hk)]
  have hlast : (lines ++ [line]).take (lines.length + 1) = lines ++ [line] :=
    List.take_of_length_le (by simp)
  rw [lineEnds, List.length_append, List.length_singleton, List.range_succ, List.map_append,
    List.map_congr_left hearlier, List.map_singleton, hlast, lineEnds]

end Bytes

namespace Writer.Capped

variable {ω : Type} {writer : Writer ω} {good : ω → Prop} {taken : ω → Bytes} {room : ω → Nat}

/-- Calls in order fill the room with their lines. -/
theorem stateAfter (h : writer.Capped good taken room) {state : ω} (hstate : good state)
    (calls : List PrintCall) :
    let later := writer.printer.stateAfter state calls
    let output := calls.flatMap PrintCall.line
    good later ∧ taken later = taken state ++ output.take (room state) ∧
      room later = room state - output.length := by
  induction calls using List.reverseRecOn with
  | nil => simp [Printer.stateAfter, hstate]
  | append_singleton past call ih =>
    obtain ⟨hpast, htaken, hroom⟩ := ih
    obtain ⟨hlater, hline, hleft, -⟩ := h.print call hpast
    intro later output
    have houtput : output = past.flatMap PrintCall.line ++ call.line := by
      rw [← List.flatMap_singleton PrintCall.line call, ← List.flatMap_append]
    have hlater' : later = (writer.printer.print call.fields call.written
        (writer.printer.stateAfter state past)).2 := Printer.stateAfter_concat ..
    rw [hlater', houtput]
    refine ⟨hlater, ?_, ?_⟩
    · rw [hline, htaken, hroom, List.append_assoc, List.take_append]
    · rw [hleft, hroom, List.length_append, Nat.sub_sub]

/-- The writer has taken the front of the session's output and has the rest of its
room left. -/
theorem handleAll (h : writer.Capped good taken room) {state : ω} (hstate : good state)
    (program : Program) (events : List Event) :
    let later := ((Session.start program state).handleAll writer.printer events).printer
    let output := Session.output program events
    good later ∧ taken later = taken state ++ output.take (room state) ∧
      room later = room state - output.length := by
  rw [Session.printer_handleAll]
  exact h.stateAfter hstate _

end Writer.Capped

namespace Session

/-- The lines of a session: its records, each with a newline. -/
def lines (program : Program) (events : List Event) : List Bytes :=
  (records program events).map fun record => record ++ [Bytes.newline]

theorem flatten_lines (program : Program) (events : List Event) :
    (lines program events).flatten = output program events := by
  rw [lines, output_eq_flatMap_records, List.flatMap_def]

theorem lines_concat_of_not_closed (program : Program) (past : List Event) {e : Event}
    (h : e.kind ≠ .closed) : lines program (past ++ [e]) = lines program past := by
  rw [lines, records_concat_of_not_closed program past h, lines]

theorem lines_concat_of_closed {program : Program} (hprogram : program.Renders)
    (past : List Event) {e : Event} (h : e.kind = .closed) :
    lines program (past ++ [e]) =
      lines program past ++ [PrintCall.line ⟨(Flow.closing program past e).fields, e.time⟩] := by
  rw [PrintCall.line_of_delivered (delivered?_closing hprogram past e), lines,
    records_concat_of_closed hprogram past h, List.map_append, lines, List.map_singleton]

variable {ω : Type} {writer : Writer ω} {good : ω → Prop} {taken : ω → Bytes} {room : ω → Nat}

/-- The records that are delivered are those whose lines end within the room. -/
theorem map_isDelivered_transcript (h : writer.Capped good taken room) {program : Program}
    (hprogram : program.Renders) {state : ω} (hstate : good state) (events : List Event) :
    (transcript writer.printer program state events).map PrintAnswer.isDelivered =
      (Bytes.lineEnds (lines program events)).map fun stop => decide (stop ≤ room state) := by
  induction events using List.reverseRecOn with
  | nil => rfl
  | append_singleton past e ih =>
    by_cases hkind : e.kind = .closed
    · obtain ⟨hpast, -, hroom⟩ := h.handleAll hstate program past
      have hrecord := delivered?_closing hprogram past e
      obtain ⟨-, -, -, hfits⟩ :=
        h.print ⟨(Flow.closing program past e).fields, e.time⟩ hpast
      have hfits := hfits (by simp [hrecord])
      have hpos : 0 < (PrintCall.line ⟨(Flow.closing program past e).fields, e.time⟩).length := by
        simp [PrintCall.line_of_delivered hrecord]
      have hdelivered : (writer.printer.print (Flow.closing program past e).fields e.time
          ((start program state).handleAll writer.printer past).printer).1 = .delivered ↔
            (output program (past ++ [e])).length ≤ room state := by
        rw [hfits, hroom, output_concat_of_closed program past hkind, List.length_append]
        omega
      rw [transcript_concat_of_closed writer.printer program state past hkind,
        lines_concat_of_closed hprogram past hkind, Bytes.lineEnds_concat, List.map_append,
        List.map_append, ih, ← lines_concat_of_closed hprogram past hkind, flatten_lines]
      simp [PrintAnswer.isDelivered, hdelivered]
    · rw [transcript_concat_of_not_closed writer.printer program state past hkind,
        lines_concat_of_not_closed program past hkind, ih]

/-- Each record is delivered or dropped: the printed ones are those that fit. -/
theorem countP_transcript (h : writer.Capped good taken room) {program : Program}
    (hprogram : program.Renders) {state : ω} (hstate : good state) (events : List Event) :
    let answers := transcript writer.printer program state events
    let fitting := (Bytes.lineEnds (lines program events)).countP fun stop => stop ≤ room state
    answers.countP PrintAnswer.isDelivered = fitting ∧
      answers.countP PrintAnswer.isFailed = (lines program events).length - fitting := by
  intro answers fitting
  have hmap := map_isDelivered_transcript h hprogram hstate events
  have hdelivered : answers.countP PrintAnswer.isDelivered = fitting := by
    calc answers.countP PrintAnswer.isDelivered
        = (answers.map PrintAnswer.isDelivered).countP id := by rw [List.countP_map]; rfl
      _ = ((Bytes.lineEnds (lines program events)).map
            fun stop => decide (stop ≤ room state)).countP id := by rw [hmap]
      _ = fitting := by rw [List.countP_map]; rfl
  have hlength : answers.length = (lines program events).length := by
    simpa [answers, Bytes.lineEnds] using congrArg List.length hmap
  have hsettles : writer.printer.Settles := Printer.settles_ofRecord _
  have hcount : answers.countP PrintAnswer.isDelivered + answers.countP PrintAnswer.isFailed =
      answers.length :=
    PrintAnswer.countP_add_countP (delivery_ne_abandoned hsettles hprogram state events)
  exact ⟨hdelivered, by omega⟩

/-- A writer with limited room takes the front of what an unlimited stream takes in the
same session, as much as there is room for.  The records whose lines end within the
room are printed and all later ones are dropped, as far as the counters go.  Both
sessions agree on the open flows and on the number of events. -/
theorem written_within_room (h : writer.Capped good taken room) {program : Program}
    (hprogram : program.Renders) {state : ω} (hstate : good state) (hempty : taken state = [])
    (events : List Event) :
    let unlimited := (start program (.unlimited [])).handleAll Stream.writer.printer events
    let session := (start program state).handleAll writer.printer events
    let output := unlimited.printer.written
    let ends := Bytes.lineEnds (lines program events)
    let fitting := ends.countP fun stop => stop ≤ room state
    output = (lines program events).flatten ∧
      taken session.printer = output.take (min (room state) output.length) ∧
      (transcript writer.printer program state events).map PrintAnswer.isDelivered =
        ends.map (fun stop => decide (stop ≤ room state)) ∧
      session.tally.printed = min fitting Counter.limit ∧
      session.tally.dropped = min (ends.length - fitting) Counter.limit ∧
      session.tally.events = unlimited.tally.events ∧
      session.table = unlimited.table := by
  intro unlimited session output ends fitting
  have houtput : output = Session.output program events :=
    Stream.reliable_writer.taken_handleAll ⟨rfl, rfl⟩ program events
  have hlength : ends.length = (lines program events).length := by simp [ends, Bytes.lineEnds]
  obtain ⟨-, htaken, -⟩ := h.handleAll hstate program events
  obtain ⟨hprinted, hdropped⟩ := countP_transcript h hprogram hstate events
  refine ⟨?_, ?_, map_isDelivered_transcript h hprogram hstate events, ?_, ?_, ?_, ?_⟩
  · rw [houtput, flatten_lines]
  · rw [htaken, hempty, List.nil_append, houtput, ← List.take_eq_take_min]
  · simp only [session, tally_handleAll_eq, hprinted, fitting, ends]
  · simp only [session, tally_handleAll_eq, hdropped, hlength, fitting, ends]
  · simp only [session, unlimited, tally_handleAll_eq]
  · simp only [session, unlimited, table_handleAll]
    rfl

/-- Of three records the first fits, the second is cut and the third finds no room. -/
theorem written_of_limited_stream :
    let id : Connection := ⟨.v4 0x0A000001 40000, .v4 0x0A000002 80⟩
    let program : Program := ⟨[⟨"status", none, .status⟩]⟩
    let events : List Event :=
      [⟨id, .epoch, .opened⟩, ⟨id, .epoch, .closed []⟩, ⟨id, .epoch, .closed []⟩,
        ⟨id, .epoch, .opened⟩, ⟨id, .epoch, .closed []⟩]
    let stream : Stream := ⟨[], some 10, false, true⟩
    let session := (start program stream).handleAll Stream.writer.printer events
    session.printer.written = Bytes.ofString "unique\nunk" ∧
      session.tally.printed = 1 ∧ session.tally.dropped = 2 := by
  intro id program events stream session
  have hprogram : program.Renders :=
    Program.renders_iff.mpr (by simp [program, Column.pattern?])
  have hstream : stream.room ≠ none ∧ stream.flushes = true := ⟨by decide, rfl⟩
  have hempty : stream.written = [] := rfl
  obtain ⟨houtput, htaken, -, hprinted, hdropped, -⟩ :=
    written_within_room Stream.capped_writer hprogram hstream hempty events
  refine ⟨?_, ?_, ?_⟩
  · rw [htaken, houtput]
    decide +kernel
  · rw [hprinted]
    decide +kernel
  · rw [hdropped]
    decide +kernel

end Session

end TcpJournal
