import Mathlib.Data.List.DropRight
import TcpJournal.OpenFlows

/-!
# Histories of connections

A table mixes the events of many connections, and one connection may open and
close any number of times.  Its history is what a table still has to remember
of it: its events behind its latest close.  The history looks at no event of
another connection.

`OpenFlows.find?_receiveAll` is the simulation between the shared table and
these histories: under every connection the table holds the flow that a fresh
flow becomes by observing the history, and no flow if the history is empty.
-/

namespace TcpJournal

namespace Connection

/-- The events of a connection behind its latest close. -/
def sinceClose (id : Connection) (events : List Event) : List Event :=
  (events.filter fun e => e.id = id).rtakeWhile fun e => e.kind ≠ .closed

/-- Events of other connections leave no trace in a history. -/
theorem sinceClose_concat_of_ne {id : Connection} {e : Event} (h : e.id ≠ id)
    (past : List Event) :
    id.sinceClose (past ++ [e]) = id.sinceClose past := by
  simp [sinceClose, h]

/-- A close empties the history of its connection. -/
theorem sinceClose_concat_of_closed {e : Event} (h : e.kind = .closed)
    (past : List Event) :
    e.id.sinceClose (past ++ [e]) = [] := by
  simp [sinceClose, h]

/-- Any other event extends the history of its connection. -/
theorem sinceClose_concat_of_not_closed {e : Event} (h : e.kind ≠ .closed)
    (past : List Event) :
    e.id.sinceClose (past ++ [e]) = e.id.sinceClose past ++ [e] := by
  simp [sinceClose, h]

theorem kind_ne_closed_of_mem_sinceClose
    {id : Connection} {events : List Event} {e : Event}
    (h : e ∈ id.sinceClose events) :
    e.kind ≠ .closed := by
  simpa using List.mem_rtakeWhile_imp h

/-- As long as a connection has not been closed, nothing of it is forgotten. -/
theorem sinceClose_eq_self {id : Connection} {events : List Event}
    (h : ∀ e ∈ events, e.id = id ∧ e.kind ≠ .closed) : id.sinceClose events = events := by
  have hown : (events.filter fun e => e.id = id) = events :=
    List.filter_eq_self.mpr fun e he => by simpa using (h e he).1
  rw [sinceClose, hown, List.rtakeWhile_eq_self_iff]
  intro e he
  simpa using (h e he).2

/-- Histories depend on the events of their own connection only. -/
theorem sinceClose_congr {id : Connection} {events others : List Event}
    (h : (events.filter fun e => e.id = id) = others.filter fun e => e.id = id) :
    id.sinceClose events = id.sinceClose others := by
  rw [sinceClose, sinceClose, h]

end Connection

namespace Flow

/-- The flow of a connection with a history, if there is any. -/
def ofHistory? (program : Program) (id : Connection) (history : List Event) : Option Flow :=
  if history = [] then none else some ((start id program).observeAll history)

theorem ofHistory?_eq_some_iff
    {program : Program} {id : Connection} {history : List Event} {flow : Flow} :
    ofHistory? program id history = some flow ↔
      history ≠ [] ∧ flow = (start id program).observeAll history := by
  unfold ofHistory?
  split
  · next h => simp [h]
  · next h => simp [h, eq_comm]

theorem isSome_ofHistory?
    {program : Program} {id : Connection} {history : List Event} :
    (ofHistory? program id history).isSome = true ↔ history ≠ [] := by
  simp [Option.isSome_iff_exists, ofHistory?_eq_some_iff]

/-- Without a history a fresh flow takes its place. -/
theorem getD_ofHistory? (program : Program) (id : Connection) (history : List Event) :
    (ofHistory? program id history).getD (start id program) =
      (start id program).observeAll history := by
  unfold ofHistory?
  split
  · next h =>
    rw [h]
    rfl
  · rfl

end Flow

namespace OpenFlows

/-- The table after events in order. -/
def receiveAll (table : OpenFlows) (events : List Event) : OpenFlows :=
  events.foldl (fun table e => (table.receive e).1) table

theorem receiveAll_concat (table : OpenFlows) (past : List Event) (e : Event) :
    table.receiveAll (past ++ [e]) = ((table.receiveAll past).receive e).1 :=
  List.foldl_concat ..

@[simp]
theorem program_receiveAll (table : OpenFlows) (events : List Event) :
    (table.receiveAll events).program = table.program := by
  induction events using List.reverseRecOn with
  | nil => rfl
  | append_singleton past e ih => rw [receiveAll_concat, program_receive, ih]

/-- The flow after an event has observed the history and the event. -/
theorem observed_of_find?_eq
    {table : OpenFlows} {program : Program} {e : Event} {history : List Event}
    (hprogram : table.program = program)
    (h : table.find? e.id = Flow.ofHistory? program e.id history) :
    table.observed e = (Flow.start e.id program).observeAll (history ++ [e]) := by
  rw [observed, h, hprogram, Flow.getD_ofHistory?, Flow.observeAll_append]
  rfl

/-- A table holds under every connection the flow of its history. -/
theorem find?_receiveAll (program : Program) (events : List Event) (id : Connection) :
    ((empty program).receiveAll events).find? id =
      Flow.ofHistory? program id (id.sinceClose events) := by
  induction events using List.reverseRecOn generalizing id with
  | nil => rfl
  | append_singleton past e ih =>
    rw [receiveAll_concat, find?_receive]
    by_cases hid : id = e.id
    · subst hid
      by_cases hkind : e.kind = .closed
      · rw [if_pos rfl, if_pos hkind, Connection.sinceClose_concat_of_closed hkind]
        rfl
      · rw [if_pos rfl, if_neg hkind, observed_of_find?_eq (program_receiveAll ..) (ih e.id),
          Connection.sinceClose_concat_of_not_closed hkind]
        simp [Flow.ofHistory?, empty]
    · rw [if_neg hid, ih, Connection.sinceClose_concat_of_ne (Ne.symm hid)]

/-- The flow that an event reaches, after it. -/
theorem observed_receiveAll (program : Program) (past : List Event) (e : Event) :
    ((empty program).receiveAll past).observed e =
      (Flow.start e.id program).observeAll (e.id.sinceClose past ++ [e]) :=
  observed_of_find?_eq (program_receiveAll ..) (find?_receiveAll ..)

end OpenFlows

end TcpJournal
