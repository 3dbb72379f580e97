import TcpJournal.Delivery.Command
import TcpJournal.Proofs.Field.LineBreaks
import TcpJournal.Proofs.Session.Output

/-!
# Records as they are delivered

The records of a session do not depend on where they go.  A command is run on
each record as it is, a stream takes each record with a newline behind it, and
both see nothing but sanitized bytes.

The columns of a record do not depend on each other: the record of a close is put
together from the records that sessions with one column each deliver at this
close (`Session.delivered_of_columns`).
-/

namespace TcpJournal

namespace PrintCall

/-- The record of a call as it is delivered, unless a field lacks a text. -/
def delivered? (call : PrintCall) : Option Bytes :=
  Field.record call.fields call.written

theorem line_of_delivered {call : PrintCall} {record : Bytes}
    (h : call.delivered? = some record) : call.line = record ++ [Bytes.newline] := by
  rw [delivered?] at h
  rw [line, h]

theorem line_of_not_delivered {call : PrintCall} (h : call.delivered? = none) :
    call.line = [] := by
  rw [delivered?] at h
  rw [line, h]

end PrintCall

namespace Printer

variable {σ : Type} (deliver : Bytes → σ → Except DeliveryError Unit × σ)

/-- Only a record with a text is passed on. -/
theorem snd_print_ofRecord (call : PrintCall) (state : σ) :
    ((ofRecord deliver).print call.fields call.written state).2 =
      match call.delivered? with
      | none => state
      | some record => (deliver record state).2 := by
  unfold ofRecord PrintCall.delivered?
  dsimp only
  cases Field.record call.fields call.written with
  | none => rfl
  | some record =>
    dsimp only
    split
    · next hdeliver => rw [hdeliver]
    · next hdeliver => rw [hdeliver]

/-- Each record with a text is passed on once, in the order of the calls. -/
theorem stateAfter_ofRecord (state : σ) (calls : List PrintCall) :
    (ofRecord deliver).stateAfter state calls =
      (calls.filterMap PrintCall.delivered?).foldl
        (fun state record => (deliver record state).2) state := by
  induction calls using List.reverseRecOn with
  | nil => rfl
  | append_singleton past call ih =>
    rw [stateAfter_concat, ih, List.filterMap_append, List.foldl_append, snd_print_ofRecord]
    cases hrecord : call.delivered? with
    | none =>
      rw [List.filterMap_cons_none hrecord]
      rfl
    | some record =>
      rw [List.filterMap_cons_some hrecord]
      rfl

end Printer

namespace Bytes

theorem sanitized_flatMap {α : Type} (items : List α) (text : α → Bytes) :
    sanitized (items.flatMap text) = items.flatMap fun item => sanitized (text item) :=
  List.map_flatMap ..

end Bytes

namespace Session

/-- The records that a session delivers. -/
def records (program : Program) (events : List Event) : List Bytes :=
  (calls program events).filterMap PrintCall.delivered?

/-- What a column shows at a close, as it is delivered. -/
def delivered (c : Column) (past : List Event) (e : Event) : Bytes :=
  (((Field.start c).observeAll (e.id.sinceClose past ++ [e])).shown e.time).sanitized

theorem records_concat_of_not_closed (program : Program) (past : List Event) {e : Event}
    (h : e.kind ≠ .closed) :
    records program (past ++ [e]) = records program past := by
  rw [records, calls_concat_of_not_closed program past h, records]

/-- The record of a close shows what each column shows, in order. -/
theorem delivered?_closing {program : Program} (hprogram : program.Renders)
    (past : List Event) (e : Event) :
    PrintCall.delivered? ⟨(Flow.closing program past e).fields, e.time⟩ =
      some (program.columns.flatMap fun c => delivered c.column past e) := by
  obtain ⟨record, hrender⟩ :=
    Option.ne_none_iff_exists'.mp (Flow.render_ne_none_of_renders hprogram e.id
      (e.id.sinceClose past ++ [e]) e.time)
  have hshown := Field.renderAll_eq_flatMap_shown hrender
  rw [Flow.fields_observeAll_start, List.flatMap_map] at hshown
  rw [PrintCall.delivered?, Field.record, Flow.closing, ← Flow.render, hrender, hshown]
  exact congrArg some (Bytes.sanitized_flatMap _ _)

/-- A close adds its record. -/
theorem records_concat_of_closed {program : Program} (hprogram : program.Renders)
    (past : List Event) {e : Event} (h : e.kind = .closed) :
    records program (past ++ [e]) =
      records program past ++ [program.columns.flatMap fun c => delivered c.column past e] := by
  rw [records, calls_concat_of_closed program past h, List.filterMap_append, ← records,
    List.filterMap_cons_some (delivered?_closing hprogram past e), List.filterMap_nil]

/-- There is one record for each close. -/
theorem length_records {program : Program} (hprogram : program.Renders) (events : List Event) :
    (records program events).length = (events.filter fun e => e.kind = .closed).length := by
  induction events using List.reverseRecOn with
  | nil => rfl
  | append_singleton past e ih =>
    by_cases h : e.kind = .closed
    · simp [records_concat_of_closed hprogram past h, ih, h]
    · simp [records_concat_of_not_closed program past h, ih, h]

theorem records_singleton_concat_of_closed {c : ProgramColumn} (hc : Program.Renders ⟨[c]⟩)
    (past : List Event) {e : Event} (h : e.kind = .closed) :
    records ⟨[c]⟩ (past ++ [e]) = records ⟨[c]⟩ past ++ [delivered c.column past e] := by
  rw [records_concat_of_closed hc past h, List.flatMap_singleton]

/-- A record is put together from the records of its columns. -/
theorem exists_texts_of_getElem?_records {program : Program} (hprogram : program.Renders)
    {events : List Event} {k : Nat} {record : Bytes}
    (hrecord : (records program events)[k]? = some record) :
    ∃ texts : List Bytes,
      (program.columns.map fun c => (records ⟨[c]⟩ events)[k]?) = texts.map some ∧
        record = texts.flatten := by
  have hsingle : ∀ c ∈ program.columns, Program.Renders ⟨[c]⟩ := by
    intro c hc other hother
    rw [List.mem_singleton.mp hother]
    exact hprogram c hc
  induction events using List.reverseRecOn with
  | nil => cases hrecord
  | append_singleton past e ih =>
    by_cases h : e.kind = .closed
    · have hlength : ∀ c ∈ program.columns,
          (records ⟨[c]⟩ past).length = (records program past).length := by
        intro c hc
        rw [length_records (hsingle c hc), length_records hprogram]
      rw [records_concat_of_closed hprogram past h] at hrecord
      rcases Nat.lt_or_ge k (records program past).length with hk | hk
      · -- An earlier record is what it was before this close.
        rw [List.getElem?_append_left hk] at hrecord
        obtain ⟨texts, htexts, hflatten⟩ := ih hrecord
        refine ⟨texts, ?_, hflatten⟩
        rw [← htexts]
        refine List.map_congr_left fun c hc => ?_
        rw [records_singleton_concat_of_closed (hsingle c hc) past h,
          List.getElem?_append_left (by rwa [hlength c hc])]
      · -- The only later record is the one of this close.
        rw [List.getElem?_append_right hk, List.getElem?_singleton] at hrecord
        split at hrecord
        · next hzero =>
          cases hrecord
          refine ⟨program.columns.map fun c => delivered c.column past e, ?_, ?_⟩
          · rw [List.map_map]
            refine List.map_congr_left fun c hc => ?_
            rw [records_singleton_concat_of_closed (hsingle c hc) past h,
              List.getElem?_append_right (by rwa [hlength c hc]), hlength c hc, hzero]
            rfl
          · rw [List.flatMap_def]
        · cases hrecord
    · rw [records_concat_of_not_closed program past h] at hrecord
      simp only [records_concat_of_not_closed _ past h]
      exact ih hrecord

theorem output_eq_flatMap_records (program : Program) (events : List Event) :
    output program events = (records program events).flatMap fun r => r ++ [Bytes.newline] := by
  rw [output, records]
  induction calls program events with
  | nil => rfl
  | cons call rest ih =>
    rw [List.flatMap_cons, ih]
    cases hrecord : call.delivered? with
    | none => rw [PrintCall.line_of_not_delivered hrecord, List.filterMap_cons_none hrecord,
        List.nil_append]
    | some record => rw [PrintCall.line_of_delivered hrecord, List.filterMap_cons_some hrecord,
        List.flatMap_cons]

theorem isPrintable_of_mem_records {program : Program} {events : List Event} {record : Bytes}
    (h : record ∈ records program events) {b : UInt8} (hb : b ∈ record) :
    Bytes.isPrintable b = true := by
  obtain ⟨call, -, hrecord⟩ := List.mem_filterMap.mp h
  obtain ⟨raw, -, rfl⟩ := Option.map_eq_some_iff.mp hrecord
  exact Bytes.isPrintable_of_mem_sanitized hb

/-- A session delivers one record for each close.  It is put together from the
records that sessions with one column each deliver at this close.  A command is
run on just these records, in order, and a writer that never fails takes each of
them with a newline behind it, whatever the runner or the cuts of the writer are.
Newlines, tabs and printable ASCII are all that leaves the session. -/
theorem delivered_of_columns {program : Program} (hprogram : program.Renders)
    (events : List Event) :
    (records program events).length = (events.filter fun e => e.kind = .closed).length ∧
    (∀ (k : Nat) (record : Bytes), (records program events)[k]? = some record →
      ∃ texts : List Bytes,
        (program.columns.map fun c => (records ⟨[c]⟩ events)[k]?) = texts.map some ∧
          record = texts.flatten) ∧
    (∀ {ρ : Type} (runner : Runner ρ) (invocation : Invocation) (state : ρ),
      ((start program state).handleAll (runner.printer invocation) events).printer =
        (records program events).foldl
          (fun state record => (runner.run invocation record state).2) state) ∧
    (∀ {ω : Type} {writer : Writer ω} {good : ω → Prop} {taken : ω → Bytes},
      writer.Reliable good taken → ∀ state, good state →
        taken ((start program state).handleAll writer.printer events).printer =
          taken state ++ (records program events).flatMap fun r => r ++ [Bytes.newline]) ∧
    ∀ record ∈ records program events, ∀ b ∈ record ++ [Bytes.newline],
      b = 0x0A ∨ b = 0x09 ∨ (0x20 ≤ b ∧ b ≤ 0x7E) := by
  refine ⟨length_records hprogram events, ?_, ?_, ?_, ?_⟩
  · intro k record hrecord
    exact exists_texts_of_getElem?_records hprogram hrecord
  · intro ρ runner invocation state
    rw [printer_handleAll]
    exact Printer.stateAfter_ofRecord (runner.run invocation) state _
  · intro ω writer good taken hwriter state hstate
    rw [hwriter.taken_handleAll hstate, output_eq_flatMap_records]
  · intro record hrecord b hb
    have hprintable : Bytes.isPrintable b = true := by
      rcases List.mem_append.mp hb with hmem | hmem
      · exact isPrintable_of_mem_records hrecord hmem
      · rw [List.mem_singleton.mp hmem]
        decide
    simpa [Bytes.isPrintable, or_assoc] using hprintable

/-- A command that is run as another user receives the captured line, the literal text and the
payload, with a full stop for each byte that is not printable. -/
theorem calls_of_recorded_command :
    let id : Connection := ⟨.v4 0x0A000001 40000, .v4 0x0A000002 80⟩
    let program : Program :=
      ⟨[⟨"reqline", none, .capture .request .firstLine⟩, .literal " é\t",
        ⟨"request", none, .payload .request⟩]⟩
    let events : List Event :=
      [⟨id, .epoch, .request (Bytes.ofString "GET /\r\n\x1b")⟩, ⟨id, .epoch, .closed []⟩]
    let logger : Invocation := ⟨"logger", some "nobody"⟩
    ((start program ⟨[], []⟩).handleAll
        (CallRecorder.runner.printer logger) events).printer.calls =
      [⟨logger, Bytes.ofString "GET / ..\tGET /.\n."⟩] := by
  intro id program events logger
  have hprogram : program.Renders :=
    Program.renders_iff.mpr (by simp [program, ProgramColumn.literal, Column.pattern?])
  rw [(delivered_of_columns hprogram events).2.2.1]
  decide

end Session

end TcpJournal
