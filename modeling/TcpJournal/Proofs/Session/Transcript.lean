import TcpJournal.Proofs.Session.Records

/-!
# Transcripts of printers

The transcript of a printer lists its calls with the fate of each record.  A
session does not notice that a transcript is kept
(`Session.forget_handleAll`), so the transcript speaks about the session as it
is.

A failure shows in the transcript and in one counter.  The calls, the open
flows and the counter of events are those of every other printer, whatever it
answers (`Session.handleAll_of_two_printers`).
-/

namespace TcpJournal

/-- A call of a printer with the fate of its record. -/
structure PrintAnswer where
  call : PrintCall
  delivery : Delivery
  deriving DecidableEq, Repr

/-- The printer answered with an error. -/
def Delivery.isFailed : Delivery → Bool
  | .failed _ => true
  | .delivered | .abandoned => false

namespace PrintAnswer

/-- The record was delivered. -/
def isDelivered (answer : PrintAnswer) : Bool := answer.delivery = .delivered

/-- The printer answered with an error. -/
def isFailed (answer : PrintAnswer) : Bool := answer.delivery.isFailed

/-- Unless a delivery is abandoned, it succeeds or fails. -/
theorem isFailed_eq_not_isDelivered {answer : PrintAnswer}
    (h : answer.delivery ≠ .abandoned) : answer.isFailed = !answer.isDelivered := by
  unfold isFailed isDelivered
  cases hdelivery : answer.delivery with
  | delivered | failed error => rfl
  | abandoned => exact absurd hdelivery h

/-- Every answer is counted once if no delivery is abandoned. -/
theorem countP_add_countP {answers : List PrintAnswer}
    (h : ∀ answer ∈ answers, answer.delivery ≠ .abandoned) :
    answers.countP isDelivered + answers.countP isFailed = answers.length := by
  have hfailed : answers.countP isFailed = answers.countP fun answer => !answer.isDelivered :=
    List.countP_congr fun answer hmem => by rw [isFailed_eq_not_isDelivered (h answer hmem)]
  rw [hfailed, List.length_eq_countP_add_countP isDelivered]
  simp

end PrintAnswer

namespace Printer

/-- The printer that also keeps its calls with the fates of their records. -/
def transcribed (printer : Printer σ) : Printer (σ × List PrintAnswer) where
  print fields written state :=
    let (delivery, inner) := printer.print fields written state.1
    (delivery, inner, state.2 ++ [⟨⟨fields, written⟩, delivery⟩])

end Printer

/-- The counters of a session say how many events there were and what the
printer answered. -/
structure Tally.Agrees (tally : Tally) (events : List Event) (answers : List PrintAnswer) :
    Prop where
  /-- Every event is counted. -/
  events_eq : tally.events = min events.length Counter.limit
  /-- The dropped records are those for which the printer answered with an error. -/
  dropped_eq : tally.dropped = min (answers.countP PrintAnswer.isFailed) Counter.limit
  /-- The printer is called once for each close. -/
  length_eq : answers.length = (events.filter fun e => e.kind = .closed).length
  /-- The record of each close has been printed or dropped. -/
  printed_add_dropped : (events.filter fun e => e.kind = .closed).length ≤ Counter.limit →
    tally.printed + tally.dropped = (events.filter fun e => e.kind = .closed).length

namespace Session

variable {σ : Type} (printer : Printer σ)

/-- A session whose printer no longer keeps a transcript. -/
def forget (session : Session (σ × List PrintAnswer)) : Session σ :=
  ⟨session.table, session.printer.1, session.tally⟩

theorem forget_handle (session : Session (σ × List PrintAnswer)) (e : Event) :
    (session.handle printer.transcribed e).forget = session.forget.handle printer e := by
  by_cases h : e.kind = .closed
  · rw [handle_of_closed _ _ h, handle_of_closed _ _ h]
    rfl
  · rw [handle_of_not_closed _ _ h, handle_of_not_closed _ _ h]
    rfl

/-- A session runs as if no transcript were kept. -/
theorem forget_handleAll (program : Program) (state : σ) (events : List Event) :
    ((start program (state, [])).handleAll printer.transcribed events).forget =
      (start program state).handleAll printer events := by
  induction events using List.reverseRecOn with
  | nil => rfl
  | append_singleton past e ih => rw [handleAll_concat, handleAll_concat, forget_handle, ih]

/-- The transcript of a printer while a session handles events. -/
def transcript (program : Program) (state : σ) (events : List Event) : List PrintAnswer :=
  ((start program (state, [])).handleAll printer.transcribed events).printer.2

theorem transcript_concat_of_not_closed (program : Program) (state : σ) (past : List Event)
    {e : Event} (h : e.kind ≠ .closed) :
    transcript printer program state (past ++ [e]) = transcript printer program state past := by
  rw [transcript, handleAll_concat, handle_of_not_closed _ _ h]
  rfl

/-- A close adds its call and the fate of its record. -/
theorem transcript_concat_of_closed (program : Program) (state : σ) (past : List Event)
    {e : Event} (h : e.kind = .closed) :
    let fields := (Flow.closing program past e).fields
    transcript printer program state (past ++ [e]) =
      transcript printer program state past ++
        [⟨⟨fields, e.time⟩,
          (printer.print fields e.time
            ((start program state).handleAll printer past).printer).1⟩] := by
  rw [← forget_handleAll]
  rw [transcript, handleAll_concat, handle_of_closed _ _ h, observed_handleAll]
  rfl

/-- The calls of a transcript do not depend on the printer. -/
theorem map_call_transcript (program : Program) (state : σ) (events : List Event) :
    (transcript printer program state events).map PrintAnswer.call = calls program events := by
  induction events using List.reverseRecOn with
  | nil => rfl
  | append_singleton past e ih =>
    by_cases h : e.kind = .closed
    · rw [transcript_concat_of_closed printer program state past h, List.map_append, ih,
        calls_concat_of_closed program past h]
      rfl
    · rw [transcript_concat_of_not_closed printer program state past h, ih,
        calls_concat_of_not_closed program past h]

/-- A printer that settles every record abandons none that has a text. -/
theorem delivery_ne_abandoned {printer : Printer σ} (hprinter : printer.Settles)
    {program : Program} (hprogram : program.Renders) (state : σ) (events : List Event) :
    ∀ answer ∈ transcript printer program state events, answer.delivery ≠ .abandoned := by
  induction events using List.reverseRecOn with
  | nil => exact List.forall_mem_nil _
  | append_singleton past e ih =>
    by_cases h : e.kind = .closed
    · rw [transcript_concat_of_closed printer program state past h]
      refine List.forall_mem_append.mpr ⟨ih, List.forall_mem_singleton.mpr ?_⟩
      exact hprinter _ _ _ (Flow.render_ne_none_of_renders hprogram _ _ _)
    · rwa [transcript_concat_of_not_closed printer program state past h]

/-- The counters of a session count its events and the answers of its printer. -/
theorem tally_handleAll_eq (program : Program) (state : σ) (events : List Event) :
    ((start program state).handleAll printer events).tally =
      ⟨min events.length Counter.limit,
        min ((transcript printer program state events).countP PrintAnswer.isDelivered)
          Counter.limit,
        min ((transcript printer program state events).countP PrintAnswer.isFailed)
          Counter.limit⟩ := by
  induction events using List.reverseRecOn with
  | nil => rfl
  | append_singleton past e ih =>
    rw [handleAll_concat]
    by_cases h : e.kind = .closed
    · rw [handle_of_closed printer _ h, observed_handleAll,
        transcript_concat_of_closed printer program state past h]
      dsimp only
      rw [ih]
      cases hdelivery : (printer.print (Flow.closing program past e).fields e.time
          ((start program state).handleAll printer past).printer).1 <;>
        simp [Tally.addEvent, Tally.addRecord, Counter.add_min_limit, List.countP_append,
          PrintAnswer.isDelivered, PrintAnswer.isFailed, Delivery.isFailed]
    · rw [handle_of_not_closed printer _ h,
        transcript_concat_of_not_closed printer program state past h, ih]
      simp [Tally.addEvent, Counter.add_min_limit]

theorem agrees_handleAll {program : Program} {state : σ} {events : List Event}
    (h : ∀ answer ∈ transcript printer program state events, answer.delivery ≠ .abandoned) :
    ((start program state).handleAll printer events).tally.Agrees events
      (transcript printer program state events) := by
  have hlength : (transcript printer program state events).length =
      (events.filter fun e => e.kind = .closed).length := by
    rw [← length_calls program events, ← map_call_transcript printer program state events,
      List.length_map]
  rw [tally_handleAll_eq]
  refine ⟨rfl, rfl, hlength, fun hlimit => ?_⟩
  have hcount := PrintAnswer.countP_add_countP h
  dsimp only
  omega

/-- Two sessions with one program and any two printers agree after every
sequence of events on the open flows, on the number of events and on each call
of the printer, whichever records the printers fail to deliver.  In each of them
the counters tell the events and the failures. -/
theorem handleAll_of_two_printers {τ : Type} {other : Printer τ} {program : Program}
    {state : σ} {otherState : τ} {events : List Event}
    (h : ∀ answer ∈ transcript printer program state events, answer.delivery ≠ .abandoned)
    (hother : ∀ answer ∈ transcript other program otherState events,
      answer.delivery ≠ .abandoned) :
    let session := (start program state).handleAll printer events
    let otherSession := (start program otherState).handleAll other events
    session.table = otherSession.table ∧
      session.tally.events = otherSession.tally.events ∧
      (transcript printer program state events).map PrintAnswer.call =
        (transcript other program otherState events).map PrintAnswer.call ∧
      session.tally.Agrees events (transcript printer program state events) ∧
      otherSession.tally.Agrees events (transcript other program otherState events) := by
  intro session otherSession
  have hagrees := agrees_handleAll printer h
  have hotherAgrees := agrees_handleAll other hother
  refine ⟨?_, ?_, ?_, hagrees, hotherAgrees⟩
  · rw [table_handleAll, table_handleAll]
    rfl
  · rw [hagrees.events_eq, hotherAgrees.events_eq]
  · rw [map_call_transcript, map_call_transcript]

/-- A printer that fails at every other call drops two of three records, and the session
is otherwise the one of a printer that never fails. -/
theorem dropped_of_alternating_printer :
    let a : Connection := ⟨.v4 0x0A000001 40000, .v4 0x0A000002 80⟩
    let b : Connection := ⟨.v4 0x0A000003 40000, .v4 0x0A000002 80⟩
    let program : Program := ⟨[⟨"status", none, .status⟩]⟩
    let events : List Event :=
      [⟨a, .epoch, .opened⟩, ⟨b, .epoch, .request [0x47]⟩, ⟨a, .epoch, .closed []⟩,
        ⟨a, .epoch, .closed []⟩, ⟨b, .epoch, .closed []⟩]
    let alternating : Printer Nat :=
      ⟨fun _ _ n => (if n % 2 = 0 then .failed (.write .diskFull) else .delivered, n + 1)⟩
    let session := (start program 0).handleAll alternating events
    session.table = ((start program []).handleAll .logging events).table ∧
      session.tally.printed + session.tally.dropped = 3 := by
  intro a b program events alternating session
  have halternating : ∀ answer ∈ transcript alternating program 0 events,
      answer.delivery ≠ .abandoned := by decide
  have hlogging : ∀ answer ∈ transcript .logging program [] events,
      answer.delivery ≠ .abandoned := by decide
  have h := handleAll_of_two_printers alternating halternating hlogging
  exact ⟨h.1, h.2.2.2.1.printed_add_dropped (by decide)⟩

end Session

end TcpJournal
