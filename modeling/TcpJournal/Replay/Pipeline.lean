import TcpJournal.Session
import TcpJournal.Trace

/-!
# Reading ahead of a session

A reader takes events from a trace and puts them into a bounded queue; a
handler takes them out and hands them to a session.  The two take turns in any
order.  The reader waits while the queue is full and stops at the end of the
trace or behind the first error; the handler waits while the queue is empty and
the reader has not stopped.  `Pipeline.sequential` does the same work with the
trace as a whole, without turns.
-/

namespace TcpJournal

/-- How a replay ended. -/
inductive ReplayEnd where
  | exhausted
  | inputFailed (cause : ReadError)
  | abandoned
  deriving DecidableEq, Repr

namespace ReplayEnd

/-- The reason for which the session is shut down, unless it was interrupted. -/
def reason? : ReplayEnd → Option EndReason
  | exhausted => some .exhausted
  | inputFailed _ => some .inputFailed
  | abandoned => none

end ReplayEnd

/-- A reader, its queue, and the session at the other end. -/
structure Pipeline (σ : Type) where
  reader : Trace.Reader
  stopped : Bool
  queue : List (Except ReadError Event)
  session : Session σ
  finished : Option ReplayEnd

/-- Whose turn it is. -/
inductive Turn where
  | reader
  | handler
  deriving DecidableEq, Repr

namespace Pipeline

/-- The number of events that may wait in the queue. -/
def capacity : Nat := 64

/-- A pipeline before its first turn. -/
def start (stream : Bytes) (session : Session σ) : Pipeline σ :=
  ⟨.ofBytes stream, false, [], session, none⟩

/-- Read one event ahead, if there is room. -/
def readerTurn (p : Pipeline σ) : Pipeline σ :=
  if p.stopped || capacity ≤ p.queue.length then p
  else
    match p.reader.next with
    | (none, reader) => { p with reader, stopped := true }
    | (some (.ok event), reader) => { p with reader, queue := p.queue ++ [.ok event] }
    | (some (.error e), reader) =>
      { p with reader, stopped := true, queue := p.queue ++ [.error e] }

/-- Handle the first event of the queue; nothing happens while it is empty. -/
def handlerTurn (printer : Printer σ) (p : Pipeline σ) : Pipeline σ :=
  if p.finished.isSome then p
  else
    match p.queue with
    | [] => if p.stopped then { p with finished := some .exhausted } else p
    | .error e :: queue => { p with queue, finished := some (.inputFailed e) }
    | .ok event :: queue =>
      let step := p.session.step printer event
      let finished := if step.completed then none else some .abandoned
      { p with queue, session := step.session, finished }

/-- One turn. -/
def turn (printer : Printer σ) (p : Pipeline σ) : Turn → Pipeline σ
  | .reader => p.readerTurn
  | .handler => p.handlerTurn printer

/-- Turns in the order of a schedule. -/
def run (printer : Printer σ) (p : Pipeline σ) (schedule : List Turn) : Pipeline σ :=
  schedule.foldl (turn printer) p

/-- Hand items to a session one after another, up to the first error. -/
def sequentialItems (printer : Printer σ) (session : Session σ) :
    List (Except ReadError Event) → Session σ × ReplayEnd
  | [] => (session, .exhausted)
  | .error e :: _ => (session, .inputFailed e)
  | .ok event :: rest =>
    let step := session.step printer event
    if step.completed then sequentialItems printer step.session rest
    else (step.session, .abandoned)

/-- Hand a trace to a session. -/
def sequential (printer : Printer σ) (session : Session σ) (stream : Bytes) :
    Session σ × ReplayEnd :=
  sequentialItems printer session ((Trace.Reader.ofBytes stream).items.1.map Prod.snd)

end Pipeline

end TcpJournal
