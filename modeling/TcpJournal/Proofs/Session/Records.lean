import TcpJournal.Proofs.Field.Rendering
import TcpJournal.Proofs.OpenFlows.History
import TcpJournal.Session

/-!
# The records of a session

A session hands the fields of a closed flow and the time of the close to its
printer.  The calls of a printer are found by running the session with a
printer that does nothing but keep them; any other printer receives the same
calls (`Session.printer_handleAll`).

The main statement compares these calls with the history of each connection:
one call for each close, in the order of the closes, with the fields of a fresh
flow that has observed just the events of its own connection since the previous
close.
-/

namespace TcpJournal

/-- One call of a printer. -/
structure PrintCall where
  fields : List Field
  written : Instant
  deriving DecidableEq, Repr

namespace PrintCall

/-- The record that a call asks for, before it is sanitized. -/
def record? (call : PrintCall) : Option Bytes :=
  Field.renderAll call.fields call.written

end PrintCall

namespace Printer

/-- The printer that keeps the calls it receives. -/
def logging : Printer (List PrintCall) where
  print fields written calls := (.delivered, calls ++ [⟨fields, written⟩])

/-- The state of a printer after calls in order. -/
def stateAfter (printer : Printer σ) (state : σ) (calls : List PrintCall) : σ :=
  calls.foldl (fun state call => (printer.print call.fields call.written state).2) state

/-- Every record that has a text is delivered. -/
def Succeeds (printer : Printer σ) : Prop :=
  ∀ fields written state, Field.renderAll fields written ≠ none →
    (printer.print fields written state).1 = .delivered

theorem succeeds_logging : logging.Succeeds :=
  fun _ _ _ _ => rfl

/-- A record that has a text is delivered or fails. -/
def Settles (printer : Printer σ) : Prop :=
  ∀ fields written state, Field.renderAll fields written ≠ none →
    (printer.print fields written state).1 ≠ .abandoned

theorem settles_ofRecord (deliver : Bytes → σ → Except DeliveryError Unit × σ) :
    (ofRecord deliver).Settles := by
  intro fields written state hrender
  obtain ⟨raw, hraw⟩ := Option.ne_none_iff_exists'.mp hrender
  simp only [ofRecord, Field.record, hraw, Option.map_some]
  split <;> nofun

theorem stateAfter_concat (printer : Printer σ) (state : σ) (calls : List PrintCall)
    (call : PrintCall) :
    printer.stateAfter state (calls ++ [call]) =
      (printer.print call.fields call.written (printer.stateAfter state calls)).2 :=
  List.foldl_concat ..

end Printer

namespace Flow

/-- The flow that a close ends: a fresh flow of its connection that has
observed the events since the previous close, and the close. -/
def closing (program : Program) (past : List Event) (e : Event) : Flow :=
  (start e.id program).observeAll (e.id.sinceClose past ++ [e])

end Flow

namespace Session

variable {σ : Type} (printer : Printer σ)

/-- Every other event leaves the printer alone. -/
theorem handle_of_not_closed (session : Session σ) {e : Event} (h : e.kind ≠ .closed) :
    session.handle printer e =
      ⟨(session.table.receive e).1, session.printer, session.tally.addEvent⟩ := by
  unfold handle step
  rw [OpenFlows.receive_of_not_closed h]

/-- A close hands the fields of its flow to the printer, once. -/
theorem handle_of_closed (session : Session σ) {e : Event} (h : e.kind = .closed) :
    session.handle printer e =
      let (delivery, state) :=
        printer.print (session.table.observed e).fields e.time session.printer
      ⟨(session.table.receive e).1, state, session.tally.addEvent.addRecord delivery⟩ := by
  unfold handle step
  rw [OpenFlows.receive_of_closed h]

theorem handleAll_concat (session : Session σ) (past : List Event) (e : Event) :
    session.handleAll printer (past ++ [e]) =
      (session.handleAll printer past).handle printer e :=
  List.foldl_concat ..

theorem table_handle (session : Session σ) (e : Event) :
    (session.handle printer e).table = (session.table.receive e).1 := by
  by_cases h : e.kind = .closed
  · rw [handle_of_closed printer session h]
  · rw [handle_of_not_closed printer session h]

/-- The table takes no notice of the printer. -/
theorem table_handleAll (session : Session σ) (events : List Event) :
    (session.handleAll printer events).table = session.table.receiveAll events := by
  induction events using List.reverseRecOn with
  | nil => rfl
  | append_singleton past e ih =>
    rw [handleAll_concat, table_handle, ih, OpenFlows.receiveAll_concat]

/-- The flow that an event reaches in a session. -/
theorem observed_handleAll (program : Program) (state : σ) (past : List Event) (e : Event) :
    ((start program state).handleAll printer past).table.observed e =
      Flow.closing program past e := by
  rw [table_handleAll]
  exact OpenFlows.observed_receiveAll ..

/-- The calls of the printer while a session handles events. -/
def calls (program : Program) (events : List Event) : List PrintCall :=
  ((start program []).handleAll .logging events).printer

theorem calls_concat_of_closed (program : Program) (past : List Event) {e : Event}
    (h : e.kind = .closed) :
    calls program (past ++ [e]) =
      calls program past ++ [⟨(Flow.closing program past e).fields, e.time⟩] := by
  rw [calls, handleAll_concat, handle_of_closed _ _ h, observed_handleAll]
  rfl

theorem calls_concat_of_not_closed (program : Program) (past : List Event) {e : Event}
    (h : e.kind ≠ .closed) :
    calls program (past ++ [e]) = calls program past := by
  rw [calls, handleAll_concat, handle_of_not_closed _ _ h]
  rfl

/-- All printers receive the same calls. -/
theorem printer_handleAll (program : Program) (state : σ) (events : List Event) :
    ((start program state).handleAll printer events).printer =
      printer.stateAfter state (calls program events) := by
  induction events using List.reverseRecOn with
  | nil => rfl
  | append_singleton past e ih =>
    rw [handleAll_concat]
    by_cases h : e.kind = .closed
    · rw [handle_of_closed printer _ h, observed_handleAll, ih, calls_concat_of_closed program _ h,
        Printer.stateAfter_concat]
    · rw [handle_of_not_closed printer _ h, ih, calls_concat_of_not_closed program _ h]

/-- There is one call for each close. -/
theorem length_calls (program : Program) (events : List Event) :
    (calls program events).length = (events.filter fun e => e.kind = .closed).length := by
  induction events using List.reverseRecOn with
  | nil => rfl
  | append_singleton past e ih =>
    by_cases h : e.kind = .closed
    · simp [calls_concat_of_closed program past h, ih, h]
    · simp [calls_concat_of_not_closed program past h, ih, h]

/-- Later events leave the calls made so far as they are. -/
theorem calls_prefix_append (program : Program) (past later : List Event) :
    calls program past <+: calls program (past ++ later) := by
  induction later using List.reverseRecOn with
  | nil => exact ⟨[], by simp⟩
  | append_singleton middle e ih =>
    rw [← List.append_assoc]
    by_cases h : e.kind = .closed
    · rw [calls_concat_of_closed program _ h]
      exact ih.trans (List.prefix_append _ _)
    · rwa [calls_concat_of_not_closed program _ h]

/-- The call of a close stands in the place of the close among all closes. -/
theorem getElem?_calls (program : Program) (before after : List Event) {e : Event}
    (h : e.kind = .closed) :
    (calls program (before ++ e :: after))[(before.filter fun e => e.kind = .closed).length]? =
      some ⟨(Flow.closing program before e).fields, e.time⟩ := by
  obtain ⟨later, hlater⟩ := calls_prefix_append program (before ++ [e]) after
  rw [List.append_assoc, List.singleton_append, calls_concat_of_closed program before h,
    List.append_assoc, List.singleton_append] at hlater
  rw [← hlater, ← length_calls program before, List.getElem?_append_right (Nat.le_refl _),
    Nat.sub_self]
  rfl

/-! ## Records of one connection -/

/-- The records of a connection in order, each as the fields of its call give
it. -/
def recordsOf (program : Program) (id : Connection) (events : List Event) :
    List (Option Bytes) :=
  let closes := events.filter fun e => e.kind = .closed
  ((closes.zip (calls program events)).filter fun (e, _) => e.id = id).map
    fun (_, call) => call.record?

theorem recordsOf_concat_of_not_closed (program : Program) (id : Connection)
    (past : List Event) {e : Event} (h : e.kind ≠ .closed) :
    recordsOf program id (past ++ [e]) = recordsOf program id past := by
  simp [recordsOf, calls_concat_of_not_closed program past h, h]

/-- A close adds a record to its own connection and to no other. -/
theorem recordsOf_concat_of_closed (program : Program) (id : Connection)
    (past : List Event) {e : Event} (h : e.kind = .closed) :
    recordsOf program id (past ++ [e]) =
      recordsOf program id past ++
        if e.id = id then [(Flow.closing program past e).render e.time] else [] := by
  have hcloses : ((past ++ [e]).filter fun e => e.kind = .closed) =
      (past.filter fun e => e.kind = .closed) ++ [e] := by
    simp [h]
  unfold recordsOf
  dsimp only
  rw [hcloses, calls_concat_of_closed program past h,
    List.zip_append (length_calls program past).symm, List.filter_append, List.map_append]
  congr 1
  by_cases hid : e.id = id
  · simp [hid, PrintCall.record?, Flow.render]
  · simp [hid]

/-- The records of a connection come from its own events alone. -/
theorem recordsOf_filter (program : Program) (id : Connection) (events : List Event) :
    recordsOf program id (events.filter fun e => e.id = id) = recordsOf program id events := by
  induction events using List.reverseRecOn with
  | nil => rfl
  | append_singleton past e ih =>
    by_cases hid : e.id = id
    · have hown : ((past ++ [e]).filter fun e => e.id = id) =
          (past.filter fun e => e.id = id) ++ [e] := by
        simp [hid]
      rw [hown]
      by_cases h : e.kind = .closed
      · have hhistory : e.id.sinceClose (past.filter fun e => e.id = id) =
            e.id.sinceClose past := by
          apply Connection.sinceClose_congr
          rw [List.filter_filter, hid]
          simp
        have hclosing : Flow.closing program (past.filter fun e => e.id = id) e =
            Flow.closing program past e := by
          rw [Flow.closing, Flow.closing, hhistory]
        rw [recordsOf_concat_of_closed program id _ h, recordsOf_concat_of_closed program id _ h,
          ih, hclosing]
      · rw [recordsOf_concat_of_not_closed program id _ h,
          recordsOf_concat_of_not_closed program id _ h, ih]
    · have hother : ((past ++ [e]).filter fun e => e.id = id) =
          past.filter fun e => e.id = id := by
        simp [hid]
      rw [hother, ih]
      by_cases h : e.kind = .closed
      · rw [recordsOf_concat_of_closed program id _ h, if_neg hid, List.append_nil]
      · rw [recordsOf_concat_of_not_closed program id _ h]

/-! ## Printers that succeed -/

/-- With a printer that succeeds, the counters show the events and the closes. -/
theorem tally_handleAll {printer : Printer σ} (hprinter : printer.Succeeds)
    {program : Program} (hprogram : program.Renders) (state : σ) (events : List Event) :
    ((start program state).handleAll printer events).tally =
      ⟨min events.length Counter.limit,
        min (events.filter fun e => e.kind = .closed).length Counter.limit, 0⟩ := by
  induction events using List.reverseRecOn with
  | nil => rfl
  | append_singleton past e ih =>
    rw [handleAll_concat]
    by_cases h : e.kind = .closed
    · have hdelivered := hprinter (Flow.closing program past e).fields e.time
        ((start program state).handleAll printer past).printer
        (Flow.render_ne_none_of_renders hprogram _ _ _)
      rw [handle_of_closed printer _ h, observed_handleAll]
      simp [hdelivered, ih, h, Tally.addEvent, Tally.addRecord, Counter.add_min_limit]
    · rw [handle_of_not_closed printer _ h]
      simp [ih, h, Tally.addEvent, Counter.add_min_limit]

/-- A session prints one record for each close, in the order of the closes.
The record is that of a fresh flow which has observed the events of its own
connection since the previous close, up to this one.  Nothing is printed when
the session ends, and the records of a connection do not depend on the events
of any other. -/
theorem records_of_closes {printer : Printer σ} (hprinter : printer.Succeeds)
    {program : Program} (hprogram : program.Renders) (state : σ) (events : List Event)
    (reason : Option EndReason) :
    let closes := events.filter fun e => e.kind = .closed
    let remains := ((start program state).handleAll printer events).finish reason
    remains.printer = printer.stateAfter state (calls program events) ∧
      (calls program events).length = closes.length ∧
      remains.tally = ⟨min events.length Counter.limit, min closes.length Counter.limit, 0⟩ ∧
      (∀ before e after, events = before ++ e :: after → e.kind = .closed →
        let flow := (Flow.start e.id program).observeAll (e.id.sinceClose before ++ [e])
        (calls program events)[(before.filter fun e => e.kind = .closed).length]? =
            some ⟨flow.fields, e.time⟩ ∧
          ∃ record, flow.render e.time = some record) ∧
      ∀ (id : Connection) (others : List Event),
        (others.filter fun e => e.id = id) = (events.filter fun e => e.id = id) →
          recordsOf program id others = recordsOf program id events := by
  refine ⟨printer_handleAll printer program state events, length_calls program events,
    tally_handleAll hprinter hprogram state events, ?_, ?_⟩
  · rintro before e after rfl h
    refine ⟨getElem?_calls program before after h, ?_⟩
    exact Option.ne_none_iff_exists'.mp (Flow.render_ne_none_of_renders hprogram _ _ _)
  · intro id others h
    rw [← recordsOf_filter program id others, h, recordsOf_filter]

/-- Two connections in turn, one of which closes twice, leave three records. -/
theorem tally_of_repeated_close :
    let a : Connection := ⟨.v4 0x0A000001 40000, .v4 0x0A000002 80⟩
    let b : Connection := ⟨.v4 0x0A000003 40000, .v4 0x0A000002 80⟩
    (((start ⟨[⟨"status", none, .status⟩, ⟨"reqsize", none, .size .request⟩]⟩ []).handleAll .logging
      [⟨a, .epoch, .opened⟩, ⟨b, .epoch, .request [0x47]⟩, ⟨a, .epoch, .closed []⟩,
        ⟨b, .epoch, .closed []⟩, ⟨a, .epoch, .closed []⟩]).finish none).tally = ⟨5, 3, 0⟩ :=
  (records_of_closes Printer.succeeds_logging
    (Program.renders_iff.mpr (by simp [Column.pattern?])) _ _ none).2.2.1

end Session

end TcpJournal
