import TcpJournal.Proofs.Field.Anchors
import TcpJournal.Proofs.Session.Records

/-!
# Times in the record of a close

A column of times keeps one or two times and moves them with the events.  In the
record of a close it shows what the history of the connection tells without any
such state: the time of the first or the latest event of some kinds, the time of
the close itself, or the span between two of them (`Column.timeText?`).

First and latest are meant in the order in which the events arrived.  Times may
go back, and then a span is negative.
-/

namespace TcpJournal

/-- The span between two times as a record shows it, or another text if one of them
is missing. -/
def Instant.spanText (missing : String) : Option Instant → Option Instant → List Char
  | some start, some stop => durationText (elapsed start stop)
  | _, _ => missing.toList

namespace Column

/-- The column shows a time or the span between two times. -/
def showsTime : Column → Bool
  | .payloadTime .. | .writtenTime _ | .span _ => true
  | .text _ | .address _ | .port _ | .closer | .status | .capture .. | .payload _ | .size _ => false

open Event in
/-- What a column of times shows when a connection with a history closes at a time.
A pattern that cannot be written has no text. -/
def timeText? (history : List Event) (closed : Instant) : Column → Option (List Char)
  | .payloadTime .request pattern => pattern.render ((latestTime [.request] history).getD .epoch)
  | .payloadTime .response pattern => pattern.render ((latestTime [.response] history).getD .epoch)
  | .writtenTime pattern => pattern.render closed
  | .span .requestPhase =>
    some (Instant.spanText "0.000000" (firstTime [.request] history) (latestTime [.request] history))
  | .span .responsePhase =>
    some (Instant.spanText "0.000000" (firstTime [.response] history) (latestTime [.response] history))
  | .span .latency =>
    some (Instant.spanText "0.000000" (latestTime [.opened, .request] history)
      (latestTime [.response] history))
  | .span .firstAnswer =>
    some (Instant.spanText "0.000000" (latestTime [.request] (beforeResponse history))
      (firstTime [.response] history))
  | .span .handshake =>
    some (Instant.spanText "0.000000" (firstTime [.opening] history) (latestTime [.opened] history))
  | .span .idleBefore =>
    some (Instant.spanText "0" (latestTime [.opened] history) (firstTime [.request] history))
  | .span .idleAfter => some (Instant.spanText "0" (latestTime [.response] history) (some closed))
  | .span .lingering =>
    some (Instant.spanText "0" (latestTime [.opened, .request, .response] history) (some closed))
  | _ => none

end Column

namespace Span

/-- What stands for a span with a missing end. -/
def missing : Span → String
  | .idleBefore | .idleAfter | .lingering => "0"
  | .requestPhase | .latency | .firstAnswer | .responsePhase | .handshake => "0.000000"

theorem missingText_eq (span : Span) : span.missingText = span.missing.toList := by
  have hzero : Instant.durationText Binary64.zero = "0.000000".toList := by decide +kernel
  cases span with
  | idleBefore | idleAfter | lingering => rfl
  | requestPhase | latency | firstAnswer | responsePhase | handshake => exact hzero

theorem text_eq_spanText (span : Span) (a : Anchors) (written : Instant) :
    span.text a written = Instant.spanText span.missing a.start (span.stopAt a written) := by
  unfold text
  cases a.start with
  | none => exact span.missingText_eq
  | some start =>
    cases span.stopAt a written with
    | none => exact span.missingText_eq
    | some stop => rfl

/-- The close moves no anchor but the end of the time since the last activity. -/
theorem anchorsOf_concat_of_closed (span : Span) (history : List Event) {close : Event}
    (h : close.kind = .closed) :
    span.anchorsOf (history ++ [close]) =
      if span = .lingering then (span.anchorsOf history).stopLatest close.time
      else span.anchorsOf history := by
  rw [← observe_anchorsOf, h]
  cases span <;> rfl

/-- A span in the record of a close, told from the history. -/
theorem text_anchorsOf_concat_of_closed (span : Span) (history : List Event) {close : Event}
    (h : close.kind = .closed) :
    some (span.text (span.anchorsOf (history ++ [close])) close.time) =
      (Column.span span).timeText? history close.time := by
  rw [anchorsOf_concat_of_closed span history h, text_eq_spanText]
  cases span <;> rfl

end Span

namespace Field

/-- A time of payload is that of the latest event with such payload. -/
theorem observeAll_payloadTime (direction : Direction) (pattern : TimePattern)
    (events : List Event) :
    (start (.payloadTime direction pattern)).observeAll events =
      payloadTime direction pattern (Event.latestTime [direction.kind] events) := by
  induction events using List.reverseRecOn with
  | nil => rfl
  | append_singleton past e ih =>
    have hlast : (start (.payloadTime direction pattern)).observeAll (past ++ [e]) =
        ((start (.payloadTime direction pattern)).observeAll past).observe e := List.foldl_append
    rw [hlast, ih, Event.latestTime_concat]
    by_cases h : e.kind = direction.kind <;> simp [observe, h]

theorem observeAll_writtenTime (pattern : TimePattern) (events : List Event) :
    (start (.writtenTime pattern)).observeAll events = writtenTime pattern := by
  induction events with
  | nil => rfl
  | cons e rest ih => exact ih

/-- A column of times shows in the record of a close what the history tells. -/
theorem render_concat_of_closed {c : Column} (hshows : c.showsTime = true)
    (history : List Event) {close : Event} (h : close.kind = .closed) :
    ((start c).observeAll (history ++ [close])).render close.time =
      (c.timeText? history close.time).map Bytes.ofText := by
  cases c with
  | payloadTime direction pattern =>
    rw [observeAll_payloadTime, Event.latestTime_concat, h]
    cases direction <;> rfl
  | writtenTime pattern =>
    rw [observeAll_writtenTime]
    rfl
  | span s =>
    rw [observeAll_span, ← Span.text_anchorsOf_concat_of_closed s history h]
    rfl
  | text | address | port | closer | status | capture | payload | size => cases hshows

end Field

namespace Session

/-- In the record of a close each column of times shows what the history of the
connection tells.  If the connection has not been closed before, its history is all
of its events. -/
theorem times_of_close {program : Program} {i : Nat} {c : ProgramColumn}
    (hc : program.columns[i]? = some c) (hshows : c.column.showsTime = true) (past : List Event)
    {close : Event} (hclose : close.kind = .closed) :
    let history := close.id.sinceClose past
    let flow := Flow.closing program past close
    calls program (past ++ [close]) = calls program past ++ [⟨flow.fields, close.time⟩] ∧
      flow.text? i close.time = (c.column.timeText? history close.time).map Bytes.ofText ∧
      ((∀ e ∈ past, e.id = close.id ∧ e.kind ≠ .closed) → history = past) := by
  intro history flow
  refine ⟨calls_concat_of_closed program past hclose, ?_, Connection.sinceClose_eq_self⟩
  have htext : flow.text? i close.time =
      ((Field.start c.column).observeAll (history ++ [close])).render close.time :=
    Flow.text?_observeAll_start hc close.id (history ++ [close]) close.time
  rw [htext, Field.render_concat_of_closed hshows history hclose]

/-- A response before any request, an open behind both and a close before the latest
request in time: the last activity lies three seconds behind the close, and no time to
the first response is known. -/
theorem times_of_disordered_events :
    let id : Connection := ⟨.v4 0x0A000001 40000, .v4 0x0A000002 80⟩
    let program : Program :=
      ⟨[⟨"closedelay", none, .span .lingering⟩, ⟨"ttfb", none, .span .firstAnswer⟩]⟩
    let past : List Event :=
      [⟨id, .ofTimeval 5 0, .response [0x4F]⟩, ⟨id, .ofTimeval 3 0, .request [0x47]⟩,
        ⟨id, .ofTimeval 9 0, .opened⟩, ⟨id, .ofTimeval 7 0, .request [0x47]⟩]
    let close : Event := ⟨id, .ofTimeval 4 0, .closed []⟩
    let flow := Flow.closing program past close
    flow.text? 0 close.time = some (Bytes.ofString "-3.000000") ∧
      flow.text? 1 close.time = some (Bytes.ofString "0.000000") := by
  intro id program past close flow
  have hpast : ∀ e ∈ past, e.id = close.id ∧ e.kind ≠ .closed := by decide
  have hclose : close.kind = .closed := rfl
  obtain ⟨-, hdelay, hhistory⟩ :=
    times_of_close (show program.columns[0]? = some _ from rfl) rfl past hclose
  obtain ⟨-, hanswer, -⟩ :=
    times_of_close (show program.columns[1]? = some _ from rfl) rfl past hclose
  rw [hhistory hpast] at hdelay hanswer
  constructor
  · rw [hdelay]
    decide +kernel
  · rw [hanswer]
    decide +kernel

end Session

end TcpJournal
