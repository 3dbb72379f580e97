import TcpJournal.Event

/-!
# Connection status

The status of a connection summarises which kinds of events it has shown:
nothing, a handshake, payload, and, once closed, whether payload came before
the close.  A handshake event after payload changes nothing.
-/

namespace TcpJournal

/-- Where a connection is in its life. -/
inductive Status where
  | unknown
  | start
  | continuing
  | last
  | unique
  deriving DecidableEq, Repr

namespace Status

/-- Every status. -/
def all : List Status := [.unknown, .start, .continuing, .last, .unique]

/-- The name of a status. -/
def name : Status → String
  | .unknown => "unknown"
  | .start => "start"
  | .continuing => "continue"
  | .last => "last"
  | .unique => "unique"

/-- The status with a name. -/
def ofName? (name : String) : Option Status :=
  all.find? fun status => status.name = name

/-- The status after one more event. -/
def observe : Status → ActivityKind → Status
  | .unknown, .opening | .unknown, .opened => .start
  | status, .opening | status, .opened => status
  | .unknown, .request | .unknown, .response => .continuing
  | .start, .request | .start, .response => .continuing
  | status, .request | status, .response => status
  | .unknown, .closed => .unknown
  | .start, .closed => .unique
  | _, .closed => .last

end Status

end TcpJournal
