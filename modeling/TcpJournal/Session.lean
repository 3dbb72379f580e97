import TcpJournal.OpenFlows
import TcpJournal.Notice

/-!
# Sessions

A session owns a table of open flows, a printer and counters.  Every event is
counted and reaches its flow; a close hands the closed flow's fields and the
time of the close to the printer, exactly once.  A failed delivery is counted
as dropped and has no other effect.  An abandoned delivery interrupts the step:
the event counts and its flow is gone, but the record is neither printed nor
dropped.
-/

namespace TcpJournal

namespace Tally

/-- Nothing has been counted. -/
def zero : Tally := ⟨0, 0, 0⟩

/-- Count an event. -/
def addEvent (tally : Tally) : Tally := { tally with events := Counter.add tally.events 1 }

/-- Count a record by its fate. -/
def addRecord (tally : Tally) : Delivery → Tally
  | .delivered => { tally with printed := Counter.add tally.printed 1 }
  | .failed _ => { tally with dropped := Counter.add tally.dropped 1 }
  | .abandoned => tally

end Tally

/-- A running session whose printer has a state of type `σ`. -/
structure Session (σ : Type) where
  table : OpenFlows
  printer : σ
  tally : Tally

namespace Session

/-- A session before its first event. -/
def start (program : Program) (printer : σ) : Session σ :=
  ⟨.empty program, printer, .zero⟩

/-- What one event does to a session. -/
structure Step (σ : Type) where
  session : Session σ
  notices : List Notice
  delivery : Option Delivery

namespace Step

/-- The step ran to its end. -/
def completed (step : Step σ) : Bool :=
  step.delivery ≠ some .abandoned

end Step

/-- The notices of a delivery. -/
def deliveryNotices (id : Connection) : Delivery → List Notice
  | .failed error => [.recordDropped id error]
  | .delivered | .abandoned => []

/-- Take in one event. -/
def step (printer : Printer σ) (session : Session σ) (e : Event) : Step σ :=
  let opened := if session.table.contains e.id then [] else [.flowOpened e.id]
  let tally := session.tally.addEvent
  let (table, closed) := session.table.receive e
  match closed with
  | none => ⟨⟨table, session.printer, tally⟩, opened, none⟩
  | some flow =>
    let (delivery, state) := printer.print flow.fields e.time session.printer
    ⟨⟨table, state, tally.addRecord delivery⟩,
      opened ++ .flowEvicted e.id table.size :: deliveryNotices flow.id delivery,
      some delivery⟩

/-- The session after an event. -/
def handle (printer : Printer σ) (session : Session σ) (e : Event) : Session σ :=
  (step printer session e).session

/-- The session after events in order. -/
def handleAll (printer : Printer σ) (session : Session σ) (events : List Event) : Session σ :=
  events.foldl (handle printer) session

/-- Take in what was seen of an event of a kind. -/
def dispatch (printer : Printer σ) (session : Session σ) (kind : ActivityKind)
    (seen : Observation) : Step σ :=
  step printer session (seen.event kind)

/-- Report a connection attempt. -/
def reportOpening (printer : Printer σ) (session : Session σ) (id : Connection)
    (time : Instant) : Step σ :=
  dispatch printer session .opening ⟨id, time, []⟩

/-- Report a completed handshake. -/
def reportOpened (printer : Printer σ) (session : Session σ) (id : Connection)
    (time : Instant) : Step σ :=
  dispatch printer session .opened ⟨id, time, []⟩

/-- Report payload of the client. -/
def reportRequest (printer : Printer σ) (session : Session σ) (id : Connection)
    (time : Instant) (payload : Bytes) : Step σ :=
  dispatch printer session .request ⟨id, time, payload⟩

/-- Report payload of the server. -/
def reportResponse (printer : Printer σ) (session : Session σ) (id : Connection)
    (time : Instant) (payload : Bytes) : Step σ :=
  dispatch printer session .response ⟨id, time, payload⟩

/-- Report a close, with the packet that ended the connection, empty if it is not known. -/
def reportClosed (printer : Printer σ) (session : Session σ) (id : Connection)
    (time : Instant) (packet : Bytes) : Step σ :=
  dispatch printer session .closed ⟨id, time, packet⟩

/-- Report an event in the way of its kind. -/
def report (printer : Printer σ) (session : Session σ) (e : Event) : Step σ :=
  match e.activity with
  | .opening => reportOpening printer session e.id e.time
  | .opened => reportOpened printer session e.id e.time
  | .request payload => reportRequest printer session e.id e.time payload
  | .response payload => reportResponse printer session e.id e.time payload
  | .closed packet => reportClosed printer session e.id e.time packet

/-- The session after events that are reported in order. -/
def reportAll (printer : Printer σ) (session : Session σ) (events : List Event) : Session σ :=
  events.foldl (fun session e => (report printer session e).session) session

/-- The notices of a session's end: every open flow is discarded, in the order
of the notices' texts. -/
def stopNotices (session : Session σ) : List Notice :=
  let (_, unclosed) := session.table.takeAll
  let discarded := unclosed.map fun flow => Notice.flowDiscarded flow.id flow.state
  discarded.mergeSort (fun a b => decide (a.text ≤ b.text)) ++
    [.stopped session.tally unclosed.length]

/-- What a session leaves behind: its printer, its counters and its last
notices. -/
structure Remains (σ : Type) where
  printer : σ
  tally : Tally
  notices : List Notice

/-- End a session, by a shutdown for a reason or by dropping it.  Open flows
are discarded without a record. -/
def finish (session : Session σ) (reason : Option EndReason) : Remains σ :=
  ⟨session.printer, session.tally,
    (reason.map Notice.shuttingDown).toList ++ session.stopNotices⟩

end Session

end TcpJournal
