import TcpJournal.Proofs.Field.LineBreaks
import TcpJournal.Proofs.Format.Validation
import TcpJournal.Proofs.Session.Output

/-!
# Line breaks in the output of a session

Two sessions whose events differ in the bytes of payload only write the same
newlines, except for those in the raw payload that their records show: a newline
passes the byte filter.  `Session.count_newline_output` counts both kinds, by
comparing a session with the one whose payload is all empty.
-/

namespace TcpJournal

/-- Without payload the histories of connections have none either. -/
theorem Connection.sinceClose_map_withoutPayload (id : Connection) (events : List Event) :
    id.sinceClose (events.map Event.withoutPayload) =
      (id.sinceClose events).map Event.withoutPayload := by
  have hkind : (fun e : Event => decide (e.kind ≠ .closed)) ∘ Event.withoutPayload =
      fun e => decide (e.kind ≠ .closed) := by
    funext e
    rw [Function.comp_apply, Event.kind_withoutPayload]
  rw [sinceClose, sinceClose, List.filter_map, List.rtakeWhile, List.rtakeWhile,
    ← List.map_reverse, List.takeWhile_map, ← List.map_reverse, hkind]
  rfl

namespace PrintCall

/-- The raw payload that a call shows. -/
def echoed (call : PrintCall) : Bytes := call.fields.flatMap Field.echoed

/-- A line has the newlines of its fields and one at its end. -/
theorem count_newline_line {call : PrintCall} (h : call.record? ≠ none) :
    call.line.count Bytes.newline =
      (call.fields.flatMap fun f => f.shown call.written).count Bytes.newline + 1 := by
  obtain ⟨record, hrecord⟩ := Option.ne_none_iff_exists'.mp h
  have hsanitized : Field.record call.fields call.written = some record.sanitized := by
    rw [Field.record, ← PrintCall.record?, hrecord]
    rfl
  simp only [line, hsanitized, List.count_append, List.count_singleton_self,
    Bytes.count_newline_sanitized]
  rw [Field.renderAll_eq_flatMap_shown hrecord]

end PrintCall

namespace Flow

/-- The newlines of a flow's line are those it has without any payload and those
in the raw payload that it shows. -/
theorem count_newline_line {program : Program} (hprogram : program.Renders) (id : Connection)
    (events : List Event) (written : Instant) :
    let call : PrintCall := ⟨((start id program).observeAll events).fields, written⟩
    let withoutPayload : PrintCall :=
      ⟨((start id program).observeAll (events.map Event.withoutPayload)).fields, written⟩
    call.line.count Bytes.newline =
      withoutPayload.line.count Bytes.newline + call.echoed.count Bytes.newline := by
  intro call withoutPayload
  have hcall : call.record? ≠ none := render_ne_none_of_renders hprogram id _ _
  have hwithout : withoutPayload.record? ≠ none := render_ne_none_of_renders hprogram id _ _
  have hfields : (call.fields.flatMap fun f => f.shown written).count Bytes.newline =
      (withoutPayload.fields.flatMap fun f => f.shown written).count Bytes.newline +
        call.echoed.count Bytes.newline := by
    simp only [call, withoutPayload, PrintCall.echoed, fields_observeAll_start, List.flatMap_map]
    exact Bytes.count_flatMap_add fun c _ =>
      Field.count_newline_observeAll c.column events written
  rw [PrintCall.count_newline_line hcall, PrintCall.count_newline_line hwithout, hfields]
  exact Nat.add_right_comm _ _ _

/-- Without columns of raw payload a flow echoes nothing. -/
theorem echoed_eq_nil {program : Program}
    (h : ∀ c ∈ program.columns, ∀ direction, c.column ≠ .payload direction) (id : Connection)
    (events : List Event) (written : Instant) :
    PrintCall.echoed ⟨((start id program).observeAll events).fields, written⟩ = [] := by
  rw [PrintCall.echoed, fields_observeAll_start, List.flatMap_eq_nil_iff]
  intro f hf
  obtain ⟨c, hc, rfl⟩ := List.mem_map.mp hf
  apply Field.echoed_eq_nil
  intro direction
  rw [Field.column_observeAll, Field.column_start]
  exact h c hc direction

/-- The close of a flow without any payload. -/
theorem closing_map_withoutPayload (program : Program) (past : List Event) (e : Event) :
    closing program (past.map Event.withoutPayload) e.withoutPayload =
      (start e.id program).observeAll
        ((e.id.sinceClose past ++ [e]).map Event.withoutPayload) := by
  rw [closing, Event.id_withoutPayload, Connection.sinceClose_map_withoutPayload, List.map_append]
  rfl

end Flow

namespace Session

/-- The raw payload that the records of a session show. -/
def echoed (program : Program) (events : List Event) : Bytes :=
  (calls program events).flatMap PrintCall.echoed

theorem echoed_concat_of_closed (program : Program) (past : List Event) {e : Event}
    (h : e.kind = .closed) :
    echoed program (past ++ [e]) =
      echoed program past ++ PrintCall.echoed ⟨(Flow.closing program past e).fields, e.time⟩ := by
  rw [echoed, calls_concat_of_closed program past h, List.flatMap_append, echoed,
    List.flatMap_singleton]

theorem echoed_concat_of_not_closed (program : Program) (past : List Event) {e : Event}
    (h : e.kind ≠ .closed) :
    echoed program (past ++ [e]) = echoed program past := by
  rw [echoed, calls_concat_of_not_closed program past h, echoed]

/-- The newlines of a session are those it writes without any payload and those
in the raw payload that its records show. -/
theorem count_newline_output {program : Program} (hprogram : program.Renders)
    (events : List Event) :
    (output program events).count Bytes.newline =
      (output program (events.map Event.withoutPayload)).count Bytes.newline +
        (echoed program events).count Bytes.newline := by
  induction events using List.reverseRecOn with
  | nil => rfl
  | append_singleton past e ih =>
    rw [List.map_append, List.map_singleton]
    by_cases h : e.kind = .closed
    · -- Both sessions add the line of one flow, which has observed the same kinds of events.
      have hclosed : e.withoutPayload.kind = .closed := (Event.kind_withoutPayload e).trans h
      rw [output_concat_of_closed program past h, output_concat_of_closed program _ hclosed,
        Flow.closing_map_withoutPayload, echoed_concat_of_closed program past h,
        List.count_append, List.count_append, List.count_append, ih, Flow.closing,
        Event.time_withoutPayload, Flow.count_newline_line hprogram]
      omega
    · have hother : e.withoutPayload.kind ≠ .closed := by rwa [Event.kind_withoutPayload]
      rw [output_concat_of_not_closed program past h,
        output_concat_of_not_closed program _ hother, ih,
        echoed_concat_of_not_closed program past h]

/-- Without columns of raw payload nothing is echoed. -/
theorem echoed_eq_nil {program : Program}
    (h : ∀ c ∈ program.columns, ∀ direction, c.column ≠ .payload direction)
    (events : List Event) : echoed program events = [] := by
  rw [echoed, List.flatMap_eq_nil_iff]
  intro call hcall
  obtain ⟨past, e, -, -, rfl⟩ := exists_close_of_mem_calls hcall
  exact Flow.echoed_eq_nil h _ _ _

/-- A writer that never fails takes the same number of newlines in two sessions
whose events differ in the bytes of payload only, exactly if their records show
the same number of newlines in raw payload.  So it does whenever no column shows
raw payload. -/
theorem count_newline_eq_iff {program : Program} (hprogram : program.Renders) {ω : Type}
    {writer : Writer ω} {good : ω → Prop} {taken : ω → Bytes}
    (hwriter : writer.Reliable good taken) {state : ω} (hstate : good state)
    {events others : List Event}
    (h : events.map Event.withoutPayload = others.map Event.withoutPayload) :
    let newlines (events : List Event) :=
      (taken ((start program state).handleAll writer.printer events).printer).count Bytes.newline
    (newlines events = newlines others ↔
      (echoed program events).count Bytes.newline =
        (echoed program others).count Bytes.newline) ∧
      ((∀ c ∈ program.columns, ∀ direction, c.column ≠ .payload direction) →
        newlines events = newlines others) := by
  intro newlines
  have hcount : ∀ events, newlines events =
      (taken state).count Bytes.newline +
        ((output program (events.map Event.withoutPayload)).count Bytes.newline +
          (echoed program events).count Bytes.newline) := by
    intro events
    rw [← count_newline_output hprogram, ← List.count_append,
      ← hwriter.taken_handleAll hstate program events]
  have hiff : newlines events = newlines others ↔
      (echoed program events).count Bytes.newline =
        (echoed program others).count Bytes.newline := by
    rw [hcount, hcount, h]
    omega
  refine ⟨hiff, fun hraw => hiff.mpr ?_⟩
  rw [echoed_eq_nil hraw, echoed_eq_nil hraw]

/-- Two lines of payload and no payload at all leave one line of output each, since
the column shows the first line only. -/
theorem count_newline_of_captured_line :
    let id : Connection := ⟨.v4 0x0A000001 40000, .v4 0x0A000002 80⟩
    let program : Program := ⟨[⟨"reqline", none, .capture .request .firstLine⟩]⟩
    let events (payload : Bytes) : List Event :=
      [⟨id, .epoch, .request payload⟩, ⟨id, .epoch, .closed []⟩]
    let newlines (events : List Event) :=
      ((start program (.unlimited [])).handleAll
        Stream.writer.printer events).printer.written.count Bytes.newline
    newlines (events (Bytes.ofString "GET /\nHost: a\n")) = newlines (events []) := by
  intro id program events newlines
  have hprogram : program.Renders := Program.renders_iff.mpr (by simp [program, Column.pattern?])
  have hstate : (Stream.unlimited []).room = none ∧ (Stream.unlimited []).flushes = true :=
    ⟨rfl, rfl⟩
  have hevents : (events (Bytes.ofString "GET /\nHost: a\n")).map Event.withoutPayload =
      (events []).map Event.withoutPayload := rfl
  have hcount := count_newline_eq_iff hprogram Stream.reliable_writer hstate hevents
  exact hcount.2 (by simp [program])

/-- A column of raw payload lets a newline through, which splits the record. -/
theorem not_forall_count_newline_eq :
    ¬∀ format program, Format.compile .standard format = .ok program → program.Renders →
      ∀ events others : List Event,
        events.map Event.withoutPayload = others.map Event.withoutPayload →
        let newlines (events : List Event) :=
          ((start program (.unlimited [])).handleAll
            Stream.writer.printer events).printer.written.count Bytes.newline
        newlines events = newlines others := by
  intro h
  let id : Connection := ⟨.v4 0x0A000001 40000, .v4 0x0A000002 80⟩
  let program : Program := ⟨[⟨"request", none, .payload .request⟩]⟩
  have hname : Format.IsName "request".toList := ⟨by decide, List.all_eq_true.mp rfl⟩
  have hkeyword : Vocabulary.standard.find? "request" =
      some (Vocabulary.plainKeyword "request" "request payload" (.payload .request)) := by
    cbv
  have hcompile : Format.compile .standard "%request" = .ok program :=
    Format.compile_plain rfl hname hkeyword rfl
  have hprogram : program.Renders := Program.renders_iff.mpr (by simp [program, Column.pattern?])
  let events : List Event :=
    [⟨id, .epoch, .request (Bytes.ofString "a\nb")⟩, ⟨id, .epoch, .closed []⟩]
  let others : List Event :=
    [⟨id, .epoch, .request (Bytes.ofString "a.b")⟩, ⟨id, .epoch, .closed []⟩]
  have hothers : events.map Event.withoutPayload = others.map Event.withoutPayload := by
    simp [events, others, Event.withoutPayload, Activity.withoutPayload]
  have hnewlines := h _ _ hcompile hprogram events others hothers
  dsimp only at hnewlines
  rw [Stream.reliable_writer.taken_handleAll ⟨rfl, rfl⟩,
    Stream.reliable_writer.taken_handleAll ⟨rfl, rfl⟩] at hnewlines
  exact absurd hnewlines (by decide)

end Session

end TcpJournal
