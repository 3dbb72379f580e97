import TcpJournal.Proofs.Capture.Segments
import TcpJournal.Proofs.Field.Rendering

/-!
# Columns that show payload

In each direction four columns show payload: the raw bytes, the first line, the
header lines and the number of bytes.  Three different accumulators stand
behind them, and each is a function of the stream of its direction, that is of
all payload put together (`Column.payloadText?`).  So the cuts between the
segments, the other direction and the events without payload leave no trace in
these columns, and a line or a header that has been shown stays.
-/

namespace TcpJournal

namespace Direction

/-- The pieces of payload that events carry in a direction. -/
def segments (direction : Direction) (events : List Event) : List Bytes :=
  events.filterMap direction.payload?

/-- All payload that events carry in a direction. -/
def stream (direction : Direction) (events : List Event) : Bytes :=
  (direction.segments events).flatten

theorem stream_append (direction : Direction) (past later : List Event) :
    direction.stream (past ++ later) = direction.stream past ++ direction.stream later := by
  simp [stream, segments]

end Direction

/-- The text of a column that shows payload, computed from the streams of both
directions.  Other columns have no such text. -/
def Column.payloadText? (stream : Direction → Bytes) : Column → Option Bytes
  | .payload direction => some ((stream direction).take Capture.limit)
  | .capture direction .firstLine =>
    some ((Bytes.firstLine? ((stream direction).take Capture.limit)).getD [])
  | .capture direction .headers =>
    some (((Bytes.headerLines? ((stream direction).take Capture.limit)).map
      (Bytes.ofString "; ").intercalate).getD [])
  | .size direction =>
    some (Bytes.ofText (Decimal.digits (min (stream direction).length (2 ^ 64 - 1))))
  | _ => none

theorem Column.payloadText?_capture (stream : Direction → Bytes) (direction : Direction)
    (unit : CaptureUnit) :
    (Column.capture direction unit).payloadText? stream =
      some ((unit.extract? ((stream direction).take Capture.limit)).getD []) := by
  cases unit <;> rfl

namespace Capture

/-- The bytes kept of a stream do not show its segments. -/
theorem foldl_bounded (stream : Bytes) (segments : List Bytes) :
    segments.foldl bounded (stream.take limit) = (stream ++ segments.flatten).take limit := by
  induction segments generalizing stream with
  | nil => simp
  | cons data rest ih =>
    rw [List.foldl_cons, bounded_take, ih, List.flatten_cons, List.append_assoc]

end Capture

namespace Counter

/-- A count of bytes does not show the segments they came in. -/
theorem foldl_add_length (count : Nat) (segments : List Bytes) :
    segments.foldl (fun count data => add count data.length) (min count limit) =
      min (count + segments.flatten.length) limit := by
  induction segments generalizing count with
  | nil => simp
  | cons data rest ih =>
    rw [List.foldl_cons, add_min_limit, ih, List.flatten_cons, List.length_append, Nat.add_assoc]

end Counter

namespace Field

/-- A field that takes notice of payload only has seen the segments of its
direction, in order. -/
theorem observeAll_eq_foldl_segments {α : Type} {direction : Direction} {make : α → Field}
    {step : α → Bytes → α}
    (hstep : ∀ a e, (make a).observe e =
      match direction.payload? e with
      | some data => make (step a data)
      | none => make a)
    (a : α) (events : List Event) :
    (make a).observeAll events = make ((direction.segments events).foldl step a) := by
  induction events generalizing a with
  | nil => rfl
  | cons e rest ih =>
    have hfirst : (make a).observeAll (e :: rest) = ((make a).observe e).observeAll rest := rfl
    rw [hfirst, hstep, Direction.segments]
    cases h : direction.payload? e with
    | none =>
      rw [List.filterMap_cons_none h]
      exact ih a
    | some data =>
      rw [List.filterMap_cons_some h]
      exact ih (step a data)

theorem observeAll_capture (direction : Direction) (unit : CaptureUnit) (events : List Event) :
    (start (.capture direction unit)).observeAll events =
      capture direction (.ofStream unit (direction.stream events)) := by
  refine (observeAll_eq_foldl_segments (fun _ _ => rfl) (Capture.start unit) events).trans ?_
  exact congrArg (capture direction) (Capture.receiveAll_start unit _)

theorem observeAll_payload (direction : Direction) (events : List Event) :
    (start (.payload direction)).observeAll events =
      payload direction ((direction.stream events).take Capture.limit) := by
  refine (observeAll_eq_foldl_segments (fun _ _ => rfl) [] events).trans ?_
  exact congrArg (payload direction) (Capture.foldl_bounded [] _)

theorem observeAll_size (direction : Direction) (events : List Event) :
    (start (.size direction)).observeAll events =
      size direction (min (direction.stream events).length Counter.limit) := by
  refine (observeAll_eq_foldl_segments (fun _ _ => rfl) 0 events).trans ?_
  rw [← Nat.zero_add (direction.stream events).length]
  exact congrArg (size direction) (Counter.foldl_add_length 0 _)

/-- A column that shows payload shows the streams of the events. -/
theorem render_observeAll_of_payloadText? {c : Column} {events : List Event} {text : Bytes}
    (h : c.payloadText? (fun direction => direction.stream events) = some text)
    (written : Instant) : ((start c).observeAll events).render written = some text := by
  cases c with
  | capture direction unit =>
    rw [Column.payloadText?_capture] at h
    rw [observeAll_capture, render, Capture.text_ofStream, h]
  | payload direction =>
    rw [observeAll_payload, ← h]
    rfl
  | size direction =>
    rw [observeAll_size, ← h]
    rfl
  | text | address | port | closer | status | payloadTime | writtenTime | span => cases h

end Field

/-- A line or a header that is shown stays the same whatever events follow. -/
theorem Column.payloadText?_append {direction : Direction} {unit : CaptureUnit} {text : Bytes}
    {events : List Event}
    (h : (Column.capture direction unit).payloadText? (fun d => d.stream events) = some text)
    (htext : text ≠ []) (later : List Event) :
    (Column.capture direction unit).payloadText? (fun d => d.stream (events ++ later)) =
      some text := by
  rw [payloadText?_capture] at h ⊢
  rw [Direction.stream_append]
  cases hfound : unit.extract? ((direction.stream events).take Capture.limit) with
  | none =>
    rw [hfound] at h
    exact absurd (Option.some.inj h).symm htext
  | some found =>
    rw [Capture.extract?_take_append hfound, ← h, hfound]

namespace Flow

/-- A column that shows payload shows the first bytes of its direction's stream,
their first line, their header lines, or the length of the stream.  It shows the
same for every other sequence of events with these streams, and a line or a
header that is not empty stays whatever events follow. -/
theorem text?_of_payloadText? {program : Program} {i : Nat} {c : ProgramColumn}
    (hc : program.columns[i]? = some c) {events : List Event} {text : Bytes}
    (htext : c.column.payloadText? (fun d => d.stream events) = some text) (id : Connection)
    (written : Instant) :
    let flow := (start id program).observeAll events
    flow.text? i written = some text ∧
      (∀ (others : List Event) (other : Connection) (later : Instant),
        (∀ d : Direction, d.stream others = d.stream events) →
          ((start other program).observeAll others).text? i later = flow.text? i written) ∧
      ∀ d unit, c.column = .capture d unit → text ≠ [] →
        ∀ (later : List Event) (rewritten : Instant),
          (flow.observeAll later).text? i rewritten = some text := by
  intro flow
  have hshown : flow.text? i written = some text := by
    rw [text?_observeAll_start hc, Field.render_observeAll_of_payloadText? htext]
  refine ⟨hshown, ?_, ?_⟩
  · intro others other later hstreams
    have hothers : c.column.payloadText? (fun d => d.stream others) = some text := by
      rw [funext hstreams, htext]
    rw [hshown, text?_observeAll_start hc, Field.render_observeAll_of_payloadText? hothers]
  · intro d unit hcapture hne later rewritten
    rw [hcapture] at htext
    have hlater := Column.payloadText?_append htext hne later
    rw [← hcapture] at hlater
    rw [← observeAll_append, text?_observeAll_start hc,
      Field.render_observeAll_of_payloadText? hlater]

/-- A request line that was cut between its carriage return and its newline, with a
response in between, is shown in full, and more requests do not change it. -/
theorem text?_of_split_line :
    let id : Connection := ⟨.v4 0x0A000001 40000, .v4 0x0A000002 80⟩
    let flow := (start id ⟨[⟨"reqline", none, .capture .request .firstLine⟩]⟩).observeAll
      [⟨id, .epoch, .request (Bytes.ofString "GET /\r")⟩,
        ⟨id, .epoch, .response (Bytes.ofString "ready\r\n")⟩,
        ⟨id, .epoch, .request (Bytes.ofString "\nHost: a\r\n")⟩]
    flow.text? 0 .epoch = some (Bytes.ofString "GET /") ∧
      ∀ (later : List Event) (rewritten : Instant),
        (flow.observeAll later).text? 0 rewritten = some (Bytes.ofString "GET /") :=
  let shown := text?_of_payloadText? (c := ⟨"reqline", none, .capture .request .firstLine⟩) rfl
    (by cbv) ⟨.v4 0x0A000001 40000, .v4 0x0A000002 80⟩ .epoch
  ⟨shown.1, shown.2.2 .request .firstLine rfl (by decide)⟩

end Flow

end TcpJournal
