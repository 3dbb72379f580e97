import TcpJournal.Event

/-!
# Spans between events of a connection

A span is the time from one event of a connection to another.  Its two anchors
move with the events: some keep the first event of their kind, some follow the
latest, and the request before the first answer stays once a response has arrived.
The missing ends of a span are shown in one of two ways, as a zero duration or
as the bare digit.
-/

namespace TcpJournal

/-- The durations that a journal can show. -/
inductive Span where
  | requestPhase
  | latency
  | firstAnswer
  | responsePhase
  | idleBefore
  | idleAfter
  | lingering
  | handshake
  deriving DecidableEq, Repr

/-- The two ends of a span, as far as they have been seen. -/
structure Anchors where
  start : Option Instant
  stop : Option Instant
  deriving DecidableEq, Repr

namespace Anchors

/-- No end has been seen. -/
def unseen : Anchors := ⟨none, none⟩

/-- Move the start to a time. -/
def startLatest (a : Anchors) (t : Instant) : Anchors := { a with start := some t }

/-- Set the start to a time unless it has been set before. -/
def startFirst (a : Anchors) (t : Instant) : Anchors := { a with start := some (a.start.getD t) }

/-- Move the end to a time. -/
def stopLatest (a : Anchors) (t : Instant) : Anchors := { a with stop := some t }

/-- Set the end to a time unless it has been set before. -/
def stopFirst (a : Anchors) (t : Instant) : Anchors := { a with stop := some (a.stop.getD t) }

end Anchors

namespace Span

/-- The anchors of a span after one more event. -/
def observe (span : Span) (a : Anchors) (kind : ActivityKind) (t : Instant) : Anchors :=
  match span, kind with
  | .requestPhase, .request => (a.startFirst t).stopLatest t
  | .responsePhase, .response => (a.startFirst t).stopLatest t
  | .latency, .opened | .latency, .request => a.startLatest t
  | .latency, .response => a.stopLatest t
  | .firstAnswer, .request => if a.stop.isNone then a.startLatest t else a
  | .firstAnswer, .response => a.stopFirst t
  | .idleBefore, .opened => a.startLatest t
  | .idleBefore, .request => a.stopFirst t
  | .idleAfter, .response => a.startLatest t
  | .lingering, .opened | .lingering, .request | .lingering, .response => a.startLatest t
  | .lingering, .closed => a.stopLatest t
  | .handshake, .opening => a.startFirst t
  | .handshake, .opened => a.stopLatest t
  | _, _ => a

/-- The end of a span when it is written: the idle time after the last response
runs until then. -/
def stopAt (span : Span) (a : Anchors) (written : Instant) : Option Instant :=
  match span with
  | .idleAfter => some written
  | _ => a.stop

/-- The text of a span with a missing end. -/
def missingText : Span → List Char
  | .idleBefore | .idleAfter | .lingering => ['0']
  | .requestPhase | .latency | .firstAnswer | .responsePhase | .handshake =>
    Instant.durationText Binary64.zero

/-- The text of a span, written at a time. -/
def text (span : Span) (a : Anchors) (written : Instant) : List Char :=
  match a.start, span.stopAt a written with
  | some start, some stop => Instant.durationText (Instant.elapsed start stop)
  | _, _ => span.missingText

end Span

end TcpJournal
