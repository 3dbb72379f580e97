import TcpJournal.Address
import TcpJournal.Instant

/-!
# Connections and the events of their life

A connection is named by its two endpoints, the client being the one that
sends requests.  Its life is a sequence of events: connection attempts,
completed handshakes, request and response payload, and the close, which may
carry the packet that ended the connection.
-/

namespace TcpJournal

/-- A TCP connection. -/
structure Connection where
  client : Endpoint
  server : Endpoint
  deriving DecidableEq, Repr

namespace Connection

/-- The text of a connection, client first. -/
def text (id : Connection) : List Char :=
  id.client.text ++ " -> ".toList ++ id.server.text

/-- The position of a connection in the order of connections. -/
def rank (id : Connection) : List Nat :=
  id.client.rank ++ id.server.rank

/-- The order of connections, by client and then by server. -/
def precedes (a b : Connection) : Bool :=
  !b.rank.lex a.rank

end Connection

/-- The kinds of events, in the order in which a regular connection shows them. -/
inductive ActivityKind where
  | opening
  | opened
  | request
  | response
  | closed
  deriving DecidableEq, Repr

namespace ActivityKind

/-- Every kind of event. -/
def all : List ActivityKind := [.opening, .opened, .request, .response, .closed]

/-- The name of a kind. -/
def name : ActivityKind → String
  | .opening => "opening"
  | .opened => "open"
  | .request => "request"
  | .response => "response"
  | .closed => "close"

/-- The kind with a name. -/
def ofName? (name : String) : Option ActivityKind :=
  all.find? fun kind => kind.name = name

end ActivityKind

/-- What happened on a connection. -/
inductive Activity where
  | opening
  | opened
  | request (payload : Bytes)
  | response (payload : Bytes)
  | closed (packet : Bytes)
  deriving DecidableEq, Repr

namespace Activity

/-- The kind of an activity. -/
def kind : Activity → ActivityKind
  | opening => .opening
  | opened => .opened
  | request _ => .request
  | response _ => .response
  | closed _ => .closed

/-- The bytes that come with an activity: payload, or the closing packet. -/
def data : Activity → Bytes
  | opening | opened => []
  | request payload => payload
  | response payload => payload
  | closed packet => packet

/-- The activity of a kind with the bytes that belong to that kind. -/
def ofKind (kind : ActivityKind) (payload packet : Bytes) : Activity :=
  match kind with
  | .opening => opening
  | .opened => opened
  | .request => request payload
  | .response => response payload
  | .closed => closed packet

end Activity

/-- One event in the life of a connection. -/
structure Event where
  id : Connection
  time : Instant
  activity : Activity
  deriving DecidableEq, Repr

/-- What is seen of an event, whatever its kind is. -/
structure Observation where
  id : Connection
  time : Instant
  data : Bytes
  deriving DecidableEq, Repr

namespace Observation

/-- The event of a kind with what was seen of it. -/
def event (seen : Observation) (kind : ActivityKind) : Event :=
  ⟨seen.id, seen.time, .ofKind kind seen.data seen.data⟩

end Observation

namespace Event

/-- The kind of an event. -/
def kind (e : Event) : ActivityKind := e.activity.kind

/-- The bytes that come with an event. -/
def data (e : Event) : Bytes := e.activity.data

/-- What is seen of an event. -/
def observation (e : Event) : Observation := ⟨e.id, e.time, e.data⟩

end Event

namespace Packet

/-- The bytes from `start` up to but not including `stop`, if there are so many. -/
def slice? (packet : Bytes) (start stop : Nat) : Option Bytes :=
  if stop ≤ packet.length then some ((packet.take stop).drop start) else none

/-- The source address in the header of an IP packet, which a high nibble of 4
or 6 in the first byte announces. -/
def source? (packet : Bytes) : Option Address :=
  match packet.head? with
  | none => none
  | some first =>
    if first.toNat / 16 = 4 then
      (slice? packet 12 16).map fun octets => .v4 (BitVec.ofNat 32 (Address.bigEndian octets))
    else if first.toNat / 16 = 6 then
      (slice? packet 8 24).map fun octets => .v6 (BitVec.ofNat 128 (Address.bigEndian octets))
    else none

end Packet

end TcpJournal
