import TcpJournal.Capture
import TcpJournal.Counter
import TcpJournal.Field.Span
import TcpJournal.Printable
import TcpJournal.Status
import TcpJournal.TimePattern.Render

/-!
# Fields of a connection's record

A column says what a record shows; a field is one column at work on one
connection.  It observes every event of that connection in order and can be
rendered at any time.  `Field.observe` never changes the column that a field
stands for, and each field depends on the events alone, not on other fields.

Only time patterns can fail to render: `Field.render` gives `none` for a
pattern without text.
-/

namespace TcpJournal

/-- The two directions of payload. -/
inductive Direction where
  | request
  | response
  deriving DecidableEq, Repr

namespace Direction

/-- The end of a connection that sends in this direction. -/
def sender (direction : Direction) (id : Connection) : Endpoint :=
  match direction with
  | .request => id.client
  | .response => id.server

/-- The kind of event that carries this direction's payload. -/
def kind : Direction → ActivityKind
  | .request => .request
  | .response => .response

/-- The payload that an event carries in this direction. -/
def payload? (direction : Direction) (e : Event) : Option Bytes :=
  if e.kind = direction.kind then some e.data else none

end Direction

/-- What one column of a record shows. -/
inductive Column where
  | text (content : String)
  | address (direction : Direction)
  | port (direction : Direction)
  | closer
  | status
  | capture (direction : Direction) (unit : CaptureUnit)
  | payload (direction : Direction)
  | size (direction : Direction)
  | payloadTime (direction : Direction) (pattern : TimePattern)
  | writtenTime (pattern : TimePattern)
  | span (span : Span)
  deriving DecidableEq, Repr

/-- The address that closed a connection, and those it may have been. -/
structure Closer where
  client : Option Address
  server : Option Address
  closedBy : Option Address
  deriving DecidableEq, Repr

namespace Closer

/-- Nothing has been seen. -/
def unseen : Closer := ⟨none, none, none⟩

/-- The closer after one more event: the source of the closing packet counts
only if the latest request or response came from that address. -/
def observe (c : Closer) (e : Event) : Closer :=
  match e.activity with
  | .request _ => { c with client := some e.id.client.address }
  | .response _ => { c with server := some e.id.server.address }
  | .closed packet =>
    let known (source : Address) : Bool := some source = c.client || some source = c.server
    { c with closedBy := (Packet.source? packet).filter known }
  | .opening | .opened => c

/-- The text of the closer. -/
def text (c : Closer) : List Char :=
  match c.closedBy with
  | some address => address.text
  | none => "unknown".toList

end Closer

/-- A column with what it has seen of one connection. -/
inductive Field where
  | text (content : String)
  | address (direction : Direction) (first : Option Address)
  | port (direction : Direction) (first : Option UInt16)
  | closer (closer : Closer)
  | status (status : Status)
  | capture (direction : Direction) (capture : Capture)
  | payload (direction : Direction) (kept : Bytes)
  | size (direction : Direction) (count : Nat)
  | payloadTime (direction : Direction) (pattern : TimePattern) (latest : Option Instant)
  | writtenTime (pattern : TimePattern)
  | span (span : Span) (anchors : Anchors)
  deriving DecidableEq, Repr

namespace Field

/-- The field of a column before any event. -/
def start : Column → Field
  | .text content => text content
  | .address direction => address direction none
  | .port direction => port direction none
  | .closer => closer .unseen
  | .status => status .unknown
  | .capture direction unit => capture direction (.start unit)
  | .payload direction => payload direction []
  | .size direction => size direction 0
  | .payloadTime direction pattern => payloadTime direction pattern none
  | .writtenTime pattern => writtenTime pattern
  | .span s => span s .unseen

/-- The column that a field stands for. -/
def column : Field → Column
  | text content => .text content
  | address direction _ => .address direction
  | port direction _ => .port direction
  | closer _ => .closer
  | status _ => .status
  | capture direction c => .capture direction c.unit
  | payload direction _ => .payload direction
  | size direction _ => .size direction
  | payloadTime direction pattern _ => .payloadTime direction pattern
  | writtenTime pattern => .writtenTime pattern
  | span s _ => .span s

/-- The field after one more event of its connection. -/
def observe (field : Field) (e : Event) : Field :=
  match field with
  | text content => text content
  | address direction first =>
    if e.kind = direction.kind then
      address direction (some (first.getD (direction.sender e.id).address))
    else field
  | port direction first =>
    if e.kind = direction.kind then
      port direction (some (first.getD (direction.sender e.id).port))
    else field
  | closer c => closer (c.observe e)
  | status s => status (s.observe e.kind)
  | capture direction c =>
    match direction.payload? e with
    | some data => capture direction (c.receive data)
    | none => field
  | payload direction kept =>
    match direction.payload? e with
    | some data => payload direction (Capture.bounded kept data)
    | none => field
  | size direction count =>
    match direction.payload? e with
    | some data => size direction (Counter.add count data.length)
    | none => field
  | payloadTime direction pattern latest =>
    if e.kind = direction.kind then payloadTime direction pattern (some e.time)
    else payloadTime direction pattern latest
  | writtenTime pattern => writtenTime pattern
  | span s anchors => span s (s.observe anchors e.kind e.time)

/-- The field after events in order. -/
def observeAll (field : Field) (events : List Event) : Field :=
  events.foldl observe field

theorem observeAll_concat (field : Field) (past : List Event) (e : Event) :
    field.observeAll (past ++ [e]) = (field.observeAll past).observe e :=
  List.foldl_append

@[simp]
theorem column_start (c : Column) : (start c).column = c := by
  cases c <;> rfl

@[simp]
theorem column_observe (field : Field) (e : Event) : (field.observe e).column = field.column := by
  cases field with
  | capture direction c =>
    unfold observe
    dsimp only
    split
    · simp [column]
    · rfl
  | text | closer | status | writtenTime | span => rfl
  | address | port | payload | size | payloadTime =>
    unfold observe
    dsimp only
    split <;> rfl

@[simp]
theorem column_observeAll (field : Field) (events : List Event) :
    (field.observeAll events).column = field.column := by
  induction events generalizing field with
  | nil => rfl
  | cons e rest ih => exact (ih _).trans (column_observe field e)

/-- The bytes of a field in a record written at a time. -/
def render (field : Field) (written : Instant) : Option Bytes :=
  match field with
  | text content => some (Bytes.ofString content)
  | address _ first => some (Bytes.ofText (first.getD .unspecified).text)
  | port _ first => some (Bytes.ofText (Decimal.digits (first.getD 0).toNat))
  | closer c => some (Bytes.ofText c.text)
  | status s => some (Bytes.ofString s.name)
  | capture _ c => some c.text
  | payload _ kept => some kept
  | size _ count => some (Bytes.ofText (Decimal.digits count))
  | payloadTime _ pattern latest => (pattern.render (latest.getD .epoch)).map Bytes.ofText
  | writtenTime pattern => (pattern.render written).map Bytes.ofText
  | span s anchors => some (Bytes.ofText (s.text anchors written))

/-- The bytes of fields in order, unless one of them has no text. -/
def renderAll (fields : List Field) (written : Instant) : Option Bytes :=
  (fields.mapM (render · written)).map List.flatten

/-- The record of fields as it leaves the journal. -/
def record (fields : List Field) (written : Instant) : Option Bytes :=
  (renderAll fields written).map Bytes.sanitized

end Field

end TcpJournal
