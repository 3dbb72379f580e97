import TcpJournal.Flow

/-!
# The table of open flows

The first event of a connection opens its flow, and its close hands the flow
back for rendering; a later event of the same connection opens a new flow.
A table holds at most one flow under each connection.
-/

namespace TcpJournal

/-- The open flows of a session, all of one program, each under a connection. -/
structure OpenFlows where
  program : Program
  entries : List (Connection × Flow)
  distinct : (entries.map Prod.fst).Nodup
  deriving DecidableEq, Repr

namespace OpenFlows

/-- No flow is open. -/
def empty (program : Program) : OpenFlows := ⟨program, [], List.nodup_nil⟩

/-- The flow under a connection. -/
def find? (table : OpenFlows) (id : Connection) : Option Flow :=
  (table.entries.find? fun entry => entry.1 = id).map Prod.snd

/-- The connections with an open flow. -/
def ids (table : OpenFlows) : List Connection := table.entries.map Prod.fst

/-- A connection has an open flow. -/
def contains (table : OpenFlows) (id : Connection) : Bool :=
  (table.find? id).isSome

/-- The number of open flows. -/
def size (table : OpenFlows) : Nat := table.entries.length

/-- No flow is open. -/
def isEmpty (table : OpenFlows) : Bool := table.entries.isEmpty

/-- The state of a connection's open flow. -/
def state? (table : OpenFlows) (id : Connection) : Option FlowPhase :=
  (table.find? id).map Flow.state

/-- The table without the flow of a connection. -/
def erase (table : OpenFlows) (id : Connection) : OpenFlows where
  program := table.program
  entries := table.entries.filter fun entry => entry.1 ≠ id
  distinct := table.distinct.sublist (List.filter_sublist.map Prod.fst)

/-- Entries with a flow in place of that of a connection, or behind the others
if there is none. -/
def putIn (id : Connection) (flow : Flow) : List (Connection × Flow) → List (Connection × Flow)
  | [] => [(id, flow)]
  | entry :: rest => if entry.1 = id then (id, flow) :: rest else entry :: putIn id flow rest

theorem map_fst_putIn (id : Connection) (flow : Flow) (entries : List (Connection × Flow)) :
    (putIn id flow entries).map Prod.fst =
      if id ∈ entries.map Prod.fst then entries.map Prod.fst
      else entries.map Prod.fst ++ [id] := by
  induction entries with
  | nil => simp [putIn]
  | cons entry rest ih =>
    by_cases h : entry.1 = id
    · simp [putIn, h]
    · rw [putIn, if_neg h, List.map_cons, ih]
      simp only [List.map_cons, List.mem_cons, Ne.symm h, false_or]
      split <;> simp

theorem nodup_putIn (id : Connection) (flow : Flow) {entries : List (Connection × Flow)}
    (h : (entries.map Prod.fst).Nodup) : ((putIn id flow entries).map Prod.fst).Nodup := by
  rw [map_fst_putIn]
  split
  · exact h
  · next hid =>
    refine List.nodup_append.2 ⟨h, by simp, fun a ha b hb => ?_⟩
    rw [List.mem_singleton.1 hb]
    exact fun he => hid (he ▸ ha)

/-- The table with a flow in place of that of a connection. -/
def put (table : OpenFlows) (id : Connection) (flow : Flow) : OpenFlows where
  program := table.program
  entries := putIn id flow table.entries
  distinct := nodup_putIn id flow table.distinct

/-- The flow of an event's connection, opened if need be, after the event. -/
def observed (table : OpenFlows) (e : Event) : Flow :=
  ((table.find? e.id).getD (.start e.id table.program)).observe e

/-- Take in one event.  A close takes its flow out of the table and hands it
back. -/
def receive (table : OpenFlows) (e : Event) : OpenFlows × Option Flow :=
  let flow := table.observed e
  if e.kind = .closed then (table.erase e.id, some flow) else (table.put e.id flow, none)

/-- Take all flows out of the table. -/
def takeAll (table : OpenFlows) : OpenFlows × List Flow :=
  (.empty table.program, table.entries.map Prod.snd)

theorem find?_put (table : OpenFlows) (id other : Connection) (flow : Flow) :
    (table.put id flow).find? other = if other = id then some flow else table.find? other := by
  simp only [find?, put]
  induction table.entries with
  | nil => by_cases h : id = other <;> simp [putIn, h, eq_comm]
  | cons entry rest ih =>
    by_cases hentry : entry.1 = id
    · by_cases h : id = other
      · simp [putIn, hentry, h]
      · simp [putIn, hentry, h, eq_comm]
    · by_cases h : entry.1 = other
      · have hne : ¬ other = id := fun he => hentry (h.trans he)
        simp [putIn, h, hne]
      · simpa [putIn, hentry, h] using ih

theorem find?_erase (table : OpenFlows) (id other : Connection) :
    (table.erase id).find? other = if other = id then none else table.find? other := by
  simp only [find?, erase, List.find?_filter]
  by_cases h : other = id
  · simp [h]
  · rw [if_neg h]
    refine congrArg _ (congrArg (List.find? · table.entries) (funext fun entry => ?_))
    by_cases hentry : entry.1 = other
    · simp [hentry, h]
    · simp [hentry]

/-- A flow stands under a connection exactly if it is found there. -/
theorem mem_entries_iff {table : OpenFlows} {id : Connection} {flow : Flow} :
    (id, flow) ∈ table.entries ↔ table.find? id = some flow := by
  have hdistinct := table.distinct
  unfold find?
  generalize table.entries = entries at hdistinct
  induction entries with
  | nil => simp
  | cons entry rest ih =>
    rw [List.map_cons, List.nodup_cons] at hdistinct
    by_cases h : entry.1 = id
    · have hrest : (id, flow) ∉ rest := fun hmem =>
        hdistinct.1 (List.mem_map.2 ⟨_, hmem, h.symm⟩)
      simp [h, hrest, Prod.ext_iff, eq_comm]
    · simpa [h, Prod.ext_iff, Ne.symm h] using ih hdistinct.2

theorem mem_ids_iff {table : OpenFlows} {id : Connection} :
    id ∈ table.ids ↔ table.contains id = true := by
  simp [ids, contains, Option.isSome_iff_exists, ← mem_entries_iff]

/-- A close takes out the flow of its connection. -/
theorem receive_of_closed {table : OpenFlows} {e : Event} (h : e.kind = .closed) :
    table.receive e = (table.erase e.id, some (table.observed e)) := by
  simp [receive, h]

/-- Every other event leaves the flow of its connection in the table. -/
theorem receive_of_not_closed {table : OpenFlows} {e : Event} (h : e.kind ≠ .closed) :
    table.receive e = (table.put e.id (table.observed e), none) := by
  simp [receive, h]

@[simp]
theorem program_receive (table : OpenFlows) (e : Event) :
    (table.receive e).1.program = table.program := by
  by_cases h : e.kind = .closed
  · rw [receive_of_closed h]
    rfl
  · rw [receive_of_not_closed h]
    rfl

/-- What one event does to the flow under each connection: only its own
connection is concerned. -/
theorem find?_receive (table : OpenFlows) (e : Event) (id : Connection) :
    (table.receive e).1.find? id =
      if id = e.id then
        if e.kind = .closed then none else some (table.observed e)
      else table.find? id := by
  by_cases h : e.kind = .closed
  · rw [receive_of_closed h, if_pos h]
    exact find?_erase table e.id id
  · rw [receive_of_not_closed h, if_neg h]
    exact find?_put table e.id id (table.observed e)

end OpenFlows

end TcpJournal
