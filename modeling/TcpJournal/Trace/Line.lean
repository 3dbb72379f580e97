import TcpJournal.Event
import TcpJournal.Instant.Rfc3339
import TcpJournal.Json.Content

/-!
# Lines of a trace

A trace line is a JSON object that names an event, its two endpoints and its
time.  Payload comes as a string or as a list of bytes, a closing packet as a
list of bytes; what an event does not use is checked and dropped.  Other keys
are allowed, a key that is used may not be repeated, and the values may also
stand in a list, in the order of the keys.
-/

namespace TcpJournal

namespace Trace

/-- The kind of event that a value names: by its name, or by an object with the
name as its only key and nothing under it. -/
def kind? (value : JsonValue) : Option ActivityKind :=
  match value with
  | .object [(key, .null)] =>
    (JsonValue.rawText? key).bind fun name => ActivityKind.ofName? (String.ofList name)
  | value => value.text?.bind fun name => ActivityKind.ofName? (String.ofList name)

/-- The endpoint that a value names. -/
def endpoint? (value : JsonValue) : Option Endpoint :=
  value.text?.bind Endpoint.parse?

/-- The instant that a value names. -/
def instant? (value : JsonValue) : Option Instant :=
  value.text?.bind Instant.parse?

/-- The payload of a value: nothing, the UTF-8 of a text, or a list of bytes. -/
def payload? (value : JsonValue) : Option Bytes :=
  match value with
  | .null => some []
  | .string raw => (JsonValue.rawText? raw).map Bytes.ofText
  | value => value.bytes?

/-- The packet of a value: nothing, or a list of bytes. -/
def packet? (value : JsonValue) : Option Bytes :=
  match value with
  | .null => some []
  | value => value.bytes?

/-- The event of the values of a line. -/
def event? (event client server time data packet : JsonValue) : Option Event := do
  let kind ← kind? event
  let client ← endpoint? client
  let server ← endpoint? server
  let time ← instant? time
  let payload ← payload? data
  let packet ← packet? packet
  return ⟨⟨client, server⟩, time, .ofKind kind payload packet⟩

/-- The event of a line's document. -/
def ofJson? (document : JsonValue) : Option Event :=
  match document with
  | .array [e, c, s, t] => event? e c s t .null .null
  | .array [e, c, s, t, d] => event? e c s t d .null
  | .array [e, c, s, t, d, p] => event? e c s t d p
  | .object members => do
    let members ← JsonValue.keyed? members
    let event ← (← JsonValue.unique? members "event")
    let client ← (← JsonValue.unique? members "client")
    let server ← (← JsonValue.unique? members "server")
    let time ← (← JsonValue.unique? members "at")
    let data ← JsonValue.unique? members "data"
    let packet ← JsonValue.unique? members "packet"
    event? event client server time (data.getD .null) (packet.getD .null)
  | _ => none

/-- The event of a trace line. -/
def parseLine? (line : List Char) : Option Event :=
  (JsonValue.parse? (Bytes.ofText line)).bind ofJson?

end Trace

end TcpJournal
