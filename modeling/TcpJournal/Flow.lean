import TcpJournal.Format.Program

/-!
# Flows

A flow is a connection that has been opened and not closed: its identity, one
field for each column of the program, and the kind of its latest event.  Every
event reaches every field, in order.
-/

namespace TcpJournal

/-- The latest event of a flow, as far as there has been one. -/
inductive FlowPhase where
  | unknown
  | after (kind : ActivityKind)
  deriving DecidableEq, Repr

namespace FlowPhase

/-- Every state. -/
def all : List FlowPhase := .unknown :: ActivityKind.all.map .after

/-- The name of a state. -/
def name : FlowPhase → String
  | .unknown => "unknown"
  | .after kind => kind.name

/-- The state with a name. -/
def ofName? (name : String) : Option FlowPhase :=
  all.find? fun state => state.name = name

end FlowPhase

/-- A connection under observation. -/
structure Flow where
  id : Connection
  fields : List Field
  state : FlowPhase
  deriving DecidableEq, Repr

namespace Flow

/-- The flow of a connection that has shown no event. -/
def start (id : Connection) (program : Program) : Flow :=
  ⟨id, program.fields, .unknown⟩

/-- The flow after one more event. -/
def observe (flow : Flow) (e : Event) : Flow :=
  { flow with fields := flow.fields.map fun f => f.observe e, state := .after e.kind }

/-- The flow after events in order. -/
def observeAll (flow : Flow) (events : List Event) : Flow :=
  events.foldl observe flow

theorem observeAll_append (flow : Flow) (past later : List Event) :
    flow.observeAll (past ++ later) = (flow.observeAll past).observeAll later :=
  List.foldl_append

@[simp]
theorem id_observeAll (flow : Flow) (events : List Event) :
    (flow.observeAll events).id = flow.id := by
  induction events generalizing flow with
  | nil => rfl
  | cons e rest ih => exact ih (flow.observe e)

/-- Each field of a flow observes the events on its own. -/
theorem fields_observeAll (flow : Flow) (events : List Event) :
    (flow.observeAll events).fields = flow.fields.map fun f => f.observeAll events := by
  induction events generalizing flow with
  | nil => simp [observeAll, Field.observeAll]
  | cons e rest ih =>
    refine (ih (flow.observe e)).trans ?_
    simp [observe, Field.observeAll]

/-- The fields of a flow are those of its program's columns. -/
theorem fields_observeAll_start (program : Program) (id : Connection) (events : List Event) :
    ((start id program).observeAll events).fields =
      program.columns.map fun c => (Field.start c.column).observeAll events := by
  rw [fields_observeAll]
  simp [start, Program.fields]

/-- The state of a flow tells the latest event. -/
theorem state_observeAll_concat (flow : Flow) (past : List Event) (e : Event) :
    (flow.observeAll (past ++ [e])).state = .after e.kind := by
  rw [observeAll_append]
  rfl

/-- The record of a flow before it is sanitized, written at a time. -/
def render (flow : Flow) (written : Instant) : Option Bytes :=
  Field.renderAll flow.fields written

end Flow

end TcpJournal
