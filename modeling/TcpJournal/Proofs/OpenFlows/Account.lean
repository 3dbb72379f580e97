import Mathlib.Data.Finset.Card
import TcpJournal.Proofs.OpenFlows.History

/-!
# The account of a table's flows

A table is used in two ways: it receives an event, or all its flows are taken
out.  An account follows a table through any sequence of uses and keeps the
flows that the table has handed back, together with the number of flows that
it has opened.

The main statement (`FlowAccount.Faithful`) says that the table always agrees
with the histories of the connections, and that the account balances: every
flow opened has been closed, has been taken out, or is still open.
-/

namespace TcpJournal

/-- One use of a table of open flows. -/
inductive TableUse where
  | receive (e : Event)
  | takeAll
  deriving DecidableEq, Repr

namespace TableUse

/-- The event that a use hands to the table. -/
def event? : TableUse → Option Event
  | receive e => some e
  | takeAll => none

/-- The events received since the flows were last taken out. -/
def sinceTakeAll (uses : List TableUse) : List Event :=
  (uses.rtakeWhile fun use => use ≠ takeAll).filterMap event?

/-- The events of a connection since its latest close, or since the flows were
last taken out. -/
def history (uses : List TableUse) (id : Connection) : List Event :=
  id.sinceClose (sinceTakeAll uses)

theorem sinceTakeAll_concat_receive (uses : List TableUse) (e : Event) :
    sinceTakeAll (uses ++ [receive e]) = sinceTakeAll uses ++ [e] := by
  simp [sinceTakeAll, event?]

theorem sinceTakeAll_concat_takeAll (uses : List TableUse) :
    sinceTakeAll (uses ++ [takeAll]) = [] := by
  simp [sinceTakeAll]

theorem kind_ne_closed_of_mem_history
    {uses : List TableUse} {id : Connection} {e : Event} (h : e ∈ history uses id) :
    e.kind ≠ .closed :=
  Connection.kind_ne_closed_of_mem_sinceClose h

end TableUse

namespace OpenFlows

theorem length_ids (table : OpenFlows) : table.ids.length = table.size :=
  List.length_map ..

theorem nodup_ids (table : OpenFlows) : table.ids.Nodup := table.distinct

theorem ids_put (table : OpenFlows) (id : Connection) (flow : Flow) :
    (table.put id flow).ids = if id ∈ table.ids then table.ids else table.ids ++ [id] :=
  map_fst_putIn ..

theorem ids_erase (table : OpenFlows) (id : Connection) :
    (table.erase id).ids = table.ids.erase id := by
  rw [table.nodup_ids.erase_eq_filter, ids, ids, List.filter_map]
  refine congrArg _ (List.filter_congr fun entry _ => ?_)
  by_cases h : entry.1 = id
  · simp [h]
  · simp [h]

/-- A new connection enlarges the table, a known one does not. -/
theorem size_put (table : OpenFlows) (id : Connection) (flow : Flow) :
    (table.put id flow).size = if table.contains id then table.size else table.size + 1 := by
  rw [← length_ids, ids_put, ← length_ids]
  by_cases h : id ∈ table.ids
  · rw [if_pos h, if_pos (mem_ids_iff.mp h)]
  · rw [if_neg h, if_neg (mt mem_ids_iff.mpr h), List.length_append, List.length_singleton]

/-- Only a known connection can be taken out. -/
theorem size_erase (table : OpenFlows) (id : Connection) :
    (table.erase id).size + (if table.contains id then 1 else 0) = table.size := by
  rw [← length_ids, ids_erase, ← length_ids]
  by_cases h : id ∈ table.ids
  · have hpos := List.length_pos_of_mem h
    rw [if_pos (mem_ids_iff.mp h), List.length_erase_of_mem h]
    omega
  · rw [if_neg (mt mem_ids_iff.mpr h), List.erase_of_not_mem h, Nat.add_zero]

end OpenFlows

/-- A table with the number of flows it has opened and the flows it has handed
back, at a close or when all were taken out. -/
structure FlowAccount where
  table : OpenFlows
  opened : Nat
  closed : List Flow
  drained : List Flow

namespace FlowAccount

/-- The account of a table that has not been used. -/
def start (program : Program) : FlowAccount := ⟨.empty program, 0, [], []⟩

/-- The account after one more use.  A flow is opened by an event whose
connection has none. -/
def use (account : FlowAccount) : TableUse → FlowAccount
  | .receive e =>
    let (table, closed) := account.table.receive e
    let opened := if account.table.contains e.id then account.opened else account.opened + 1
    ⟨table, opened, account.closed ++ closed.toList, account.drained⟩
  | .takeAll =>
    let (table, drained) := account.table.takeAll
    { account with table, drained := account.drained ++ drained }

/-- The account after uses in order. -/
def run (account : FlowAccount) (uses : List TableUse) : FlowAccount :=
  uses.foldl use account

theorem run_concat (account : FlowAccount) (past : List TableUse) (next : TableUse) :
    account.run (past ++ [next]) = (account.run past).use next :=
  List.foldl_concat ..

/-- Taking all flows out makes a table forget: what it holds has been received
since. -/
theorem table_run (program : Program) (uses : List TableUse) :
    ((start program).run uses).table =
      (OpenFlows.empty program).receiveAll (TableUse.sinceTakeAll uses) := by
  induction uses using List.reverseRecOn with
  | nil => rfl
  | append_singleton past next ih =>
    rw [run_concat]
    cases next with
    | receive e =>
      rw [TableUse.sinceTakeAll_concat_receive, OpenFlows.receiveAll_concat, ← ih]
      rfl
    | takeAll =>
      rw [TableUse.sinceTakeAll_concat_takeAll]
      have hprogram : ((start program).run past).table.program = program := by
        rw [ih, OpenFlows.program_receiveAll]
        rfl
      simp only [use, OpenFlows.takeAll, hprogram]
      rfl

theorem find?_run (program : Program) (uses : List TableUse) (id : Connection) :
    ((start program).run uses).table.find? id =
      Flow.ofHistory? program id (TableUse.history uses id) := by
  rw [table_run]
  exact OpenFlows.find?_receiveAll ..

/-- Flows that have been handed back and flows that are open make up all flows
that were opened. -/
def Balanced (account : FlowAccount) : Prop :=
  account.opened = account.closed.length + account.drained.length + account.table.size

theorem balanced_receive {account : FlowAccount} (h : account.Balanced) (e : Event) :
    (account.use (.receive e)).Balanced := by
  unfold Balanced at h ⊢
  by_cases hkind : e.kind = .closed
  · have hsize := account.table.size_erase e.id
    simp only [use, OpenFlows.receive_of_closed hkind, Option.toList_some, List.length_append,
      List.length_singleton]
    split at hsize
    · next hid =>
      rw [if_pos hid]
      omega
    · next hid =>
      rw [if_neg hid]
      omega
  · have hsize := account.table.size_put e.id (account.table.observed e)
    simp only [use, OpenFlows.receive_of_not_closed hkind, Option.toList_none, List.append_nil]
    split at hsize
    · next hid =>
      rw [if_pos hid]
      omega
    · next hid =>
      rw [if_neg hid]
      omega

theorem balanced_takeAll {account : FlowAccount} (h : account.Balanced) :
    (account.use .takeAll).Balanced := by
  unfold Balanced at h ⊢
  simp only [use, OpenFlows.takeAll, List.length_append, List.length_map]
  simp only [OpenFlows.size, OpenFlows.empty, List.length_nil] at h ⊢
  omega

theorem balanced_run (program : Program) (uses : List TableUse) :
    ((start program).run uses).Balanced := by
  induction uses using List.reverseRecOn with
  | nil => rfl
  | append_singleton past next ih =>
    rw [run_concat]
    cases next with
    | receive e => exact balanced_receive ih e
    | takeAll => exact balanced_takeAll ih

/-- A flow found in the table has observed exactly the history of its
connection. -/
theorem eq_of_find?_run
    {program : Program} {uses : List TableUse} {id : Connection} {flow : Flow}
    (h : ((start program).run uses).table.find? id = some flow) :
    TableUse.history uses id ≠ [] ∧
      flow = (Flow.start id program).observeAll (TableUse.history uses id) := by
  rw [find?_run] at h
  exact Flow.ofHistory?_eq_some_iff.mp h

/-- The account of a table agrees with what the uses of the table were. -/
structure Faithful (program : Program) (uses : List TableUse) (account : FlowAccount) : Prop where
  /-- The open connections are those with an event since their last close or
  since the flows were last taken out. -/
  contains_iff : ∀ id,
    account.table.contains id = true ↔ TableUse.history uses id ≠ []
  /-- The table's size and its emptiness are those of this set of connections. -/
  open_ids : ∃ open_ids : Finset Connection,
    (∀ id, id ∈ open_ids ↔ TableUse.history uses id ≠ []) ∧
      account.table.size = open_ids.card ∧
      (account.table.isEmpty = true ↔ open_ids = ∅)
  /-- Each flow stands under its own connection and has observed its history. -/
  flow_eq : ∀ id flow, account.table.find? id = some flow →
    flow.id = id ∧ flow = (Flow.start id program).observeAll (TableUse.history uses id)
  /-- Each flow has one field for each entry of the program, in order, of the
  variant that the entry creates, with the same text or pattern. -/
  columns_eq : ∀ id flow, account.table.find? id = some flow →
    flow.fields.map Field.column = program.columns.map fun c => (Field.start c.column).column
  /-- The state is the kind of the latest event. -/
  state_eq : ∀ id,
    account.table.state? id =
      (TableUse.history uses id).getLast?.map fun e => FlowPhase.after e.kind
  /-- No open flow is unknown or closed. -/
  state_open : ∀ id state, account.table.state? id = some state →
    state ≠ .unknown ∧ state ≠ .after .closed
  /-- An event hands back a flow exactly if it is a close, and then it is the
  closed flow of its connection, which has left the table. -/
  receive : ∀ e,
    ((account.table.receive e).2.isSome = true ↔ e.kind = .closed) ∧
      ∀ flow, (account.table.receive e).2 = some flow →
        flow.id = e.id ∧ flow.state = .after .closed ∧
          flow = (Flow.start e.id program).observeAll (TableUse.history uses e.id ++ [e]) ∧
          (account.table.receive e).1.contains e.id = false
  /-- Taking all flows out hands back each open flow once and leaves none. -/
  takeAll :
    (account.table.takeAll.2.map Flow.id).Nodup ∧
      (∀ flow, flow ∈ account.table.takeAll.2 ↔ account.table.find? flow.id = some flow) ∧
      account.table.takeAll.1.isEmpty = true
  /-- All flows opened have been handed back or are open. -/
  balanced :
    account.opened = account.closed.length + account.drained.length + account.table.size

/-- The fields of a fresh flow keep their columns whatever the flow observes. -/
theorem columns_observeAll (program : Program) (id : Connection) (events : List Event) :
    ((Flow.start id program).observeAll events).fields.map Field.column =
      program.columns.map fun c => (Field.start c.column).column := by
  rw [Flow.fields_observeAll_start]
  simp

/-- The state that the table shows for a connection. -/
theorem state?_run (program : Program) (uses : List TableUse) (id : Connection) :
    ((start program).run uses).table.state? id =
      (TableUse.history uses id).getLast?.map fun e => FlowPhase.after e.kind := by
  rw [OpenFlows.state?, find?_run]
  rcases List.eq_nil_or_concat (TableUse.history uses id) with hnil | ⟨past, e, hconcat⟩
  · rw [hnil]
    rfl
  · rw [hconcat, List.concat_eq_append, Flow.ofHistory?, if_neg (by simp), Option.map_some,
      Flow.state_observeAll_concat, List.getLast?_concat, Option.map_some]

theorem contains_run_iff (program : Program) (uses : List TableUse) (id : Connection) :
    ((start program).run uses).table.contains id = true ↔ TableUse.history uses id ≠ [] := by
  rw [OpenFlows.contains, find?_run]
  exact Flow.isSome_ofHistory?

theorem id_of_find?_run
    {program : Program} {uses : List TableUse} {id : Connection} {flow : Flow}
    (h : ((start program).run uses).table.find? id = some flow) :
    flow.id = id := by
  rw [(eq_of_find?_run h).2, Flow.id_observeAll]
  rfl

/-- The flow that an event reaches has observed the history and the event. -/
theorem observed_run (program : Program) (uses : List TableUse) (e : Event) :
    ((start program).run uses).table.observed e =
      (Flow.start e.id program).observeAll (TableUse.history uses e.id ++ [e]) := by
  rw [table_run]
  exact OpenFlows.observed_receiveAll ..

/-- The entries of a table are known by the flows alone. -/
theorem map_id_takeAll_run (program : Program) (uses : List TableUse) :
    ((start program).run uses).table.takeAll.2.map Flow.id =
      ((start program).run uses).table.ids := by
  rw [OpenFlows.takeAll, List.map_map, OpenFlows.ids]
  refine List.map_congr_left fun entry hentry => ?_
  exact id_of_find?_run (OpenFlows.mem_entries_iff.mp hentry)

theorem mem_takeAll_run_iff (program : Program) (uses : List TableUse) (flow : Flow) :
    flow ∈ ((start program).run uses).table.takeAll.2 ↔
      ((start program).run uses).table.find? flow.id = some flow := by
  simp only [OpenFlows.takeAll, List.mem_map, Prod.exists, exists_eq_right,
    OpenFlows.mem_entries_iff]
  constructor
  · rintro ⟨id, h⟩
    rwa [id_of_find?_run h]
  · intro h
    exact ⟨flow.id, h⟩

/-- After every sequence of uses, the table agrees with the histories of the
connections, and no flow has been lost or doubled. -/
theorem faithful_run (program : Program) (uses : List TableUse) :
    Faithful program uses ((start program).run uses) where
  contains_iff := contains_run_iff program uses
  open_ids := by
    refine ⟨((start program).run uses).table.ids.toFinset, fun id => ?_, ?_, ?_⟩
    · rw [List.mem_toFinset, OpenFlows.mem_ids_iff]
      exact contains_run_iff program uses id
    · rw [List.toFinset_card_of_nodup (OpenFlows.nodup_ids _), OpenFlows.length_ids]
    · rw [List.toFinset_eq_empty_iff, OpenFlows.isEmpty, OpenFlows.ids, List.map_eq_nil_iff,
        List.isEmpty_iff]
  flow_eq id flow h := ⟨id_of_find?_run h, (eq_of_find?_run h).2⟩
  columns_eq id flow h := by
    rw [(eq_of_find?_run h).2]
    exact columns_observeAll ..
  state_eq := state?_run program uses
  state_open id state h := by
    rw [state?_run] at h
    obtain ⟨e, he, rfl⟩ := Option.map_eq_some_iff.mp h
    have hkind := TableUse.kind_ne_closed_of_mem_history (List.mem_of_getLast? he)
    exact ⟨FlowPhase.noConfusion, fun hclosed => hkind (FlowPhase.after.inj hclosed)⟩
  receive e := by
    by_cases hkind : e.kind = .closed
    · rw [OpenFlows.receive_of_closed hkind]
      refine ⟨by simp [hkind], fun flow hflow => ?_⟩
      obtain rfl := Option.some.inj hflow
      rw [observed_run]
      refine ⟨Flow.id_observeAll .., ?_, rfl, ?_⟩
      · rw [Flow.state_observeAll_concat, hkind]
      · simp [OpenFlows.contains, OpenFlows.find?_erase]
    · rw [OpenFlows.receive_of_not_closed hkind]
      simp [hkind]
  takeAll := by
    refine ⟨?_, mem_takeAll_run_iff program uses, rfl⟩
    rw [map_id_takeAll_run]
    exact OpenFlows.nodup_ids _
  balanced := balanced_run program uses

end FlowAccount

end TcpJournal
