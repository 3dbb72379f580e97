import TcpJournal.Delivery
import TcpJournal.Flow

/-!
# Notices of a session

What a session tells about its own course, each notice with a level and a
text.
-/

namespace TcpJournal

/-- How important a notice is. -/
inductive NoticeLevel where
  | debug
  | info
  | warn
  deriving DecidableEq, Repr

namespace NoticeLevel

/-- The name of a level. -/
def name : NoticeLevel → String
  | .debug => "debug"
  | .info => "info"
  | .warn => "warn"

end NoticeLevel

/-- Why a session is shut down. -/
inductive EndReason where
  | exhausted
  | inputFailed
  | interrupted
  deriving DecidableEq, Repr

namespace EndReason

/-- The text of a reason. -/
def text : EndReason → String
  | .exhausted => "end of input"
  | .inputFailed => "input error"
  | .interrupted => "signal received"

end EndReason

/-- The counters of a session. -/
structure Tally where
  events : Nat
  printed : Nat
  dropped : Nat
  deriving DecidableEq, Repr

/-- Something that happened in a session. -/
inductive Notice where
  | compiled (columns : Nat)
  | started (columns : Nat)
  | flowOpened (id : Connection)
  | flowEvicted (id : Connection) (stillOpen : Nat)
  | recordDropped (id : Connection) (error : DeliveryError)
  | shuttingDown (reason : EndReason)
  | flowDiscarded (id : Connection) (state : FlowPhase)
  | stopped (tally : Tally) (unclosed : Nat)
  deriving DecidableEq, Repr

namespace Notice

/-- The level of a notice. -/
def level : Notice → NoticeLevel
  | compiled _ | flowOpened _ | flowEvicted .. | flowDiscarded .. => .debug
  | started _ | shuttingDown _ | stopped .. => .info
  | recordDropped .. => .warn

/-- A number in a notice. -/
def count (n : Nat) : String := String.ofList (Decimal.digits n)

/-- A connection in a notice. -/
def connection (id : Connection) : String := String.ofList id.text

/-- The text of a notice. -/
def text : Notice → String
  | compiled columns => "compiled format into " ++ count columns ++ " columns"
  | started columns => "coordinator started with " ++ count columns ++ " columns"
  | flowOpened id => "new flow " ++ connection id
  | flowEvicted id stillOpen =>
    "evicted flow " ++ connection id ++ ", " ++ count stillOpen ++ " still open"
  | recordDropped id error =>
    "dropping record for " ++ connection id ++ ": " ++ error.message
  | shuttingDown reason => "coordinator shutting down: " ++ reason.text
  | flowDiscarded id state =>
    "discarding unclosed flow " ++ connection id ++ " (" ++ state.name ++ ")"
  | stopped tally unclosed =>
    "coordinator stopped: " ++ count tally.events ++ " events, " ++ count tally.printed ++
      " printed, " ++ count tally.dropped ++ " dropped, " ++ count unclosed ++ " unclosed"

/-- A notice as a line of a journal's own log. -/
def line (notice : Notice) : String :=
  notice.level.name ++ " " ++ notice.text

end Notice

end TcpJournal
