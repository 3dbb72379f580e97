import TcpJournal.Proofs.Session.Output

/-!
# Statuses in the records of a session

The status of a connection is a small machine, but what it shows can be told
without any state: it is a matter of which kinds of events there have been.
Their order and their number leave no trace, and a handshake that comes late
takes back nothing.

A close comes last in the history of its connection and there is no other in
it, so each record shows the status that belongs to the kinds of events since
the close before (`Session.status_of_kinds`).
-/

namespace TcpJournal

namespace Status

/-- The status of a connection that has had events of these kinds and no close. -/
def ofKinds (kinds : List ActivityKind) : Status :=
  if kinds = [] then .unknown
  else if .request ∈ kinds ∨ .response ∈ kinds then .continuing
  else .start

/-- What is shown of a connection that has had events of these kinds and no close. -/
def openName (kinds : List ActivityKind) : String :=
  if kinds = [] then "unknown"
  else if .request ∈ kinds ∨ .response ∈ kinds then "continue"
  else "start"

/-- What is shown of a connection that has had events of these kinds and then a
close. -/
def closedName (kinds : List ActivityKind) : String :=
  if kinds = [] then "unknown"
  else if .request ∈ kinds ∨ .response ∈ kinds then "last"
  else "unique"

/-- No event but a close takes anything back. -/
theorem observe_ofKinds (past : List ActivityKind) {kind : ActivityKind} (h : kind ≠ .closed) :
    (ofKinds past).observe kind = ofKinds (past ++ [kind]) := by
  by_cases hempty : past = []
  · rw [hempty]
    cases kind with
    | closed => exact absurd rfl h
    | opening | opened | request | response => rfl
  · by_cases hpayload : .request ∈ past ∨ .response ∈ past
    · have hlater : .request ∈ past ++ [kind] ∨ .response ∈ past ++ [kind] :=
        hpayload.imp (List.mem_append_left _) (List.mem_append_left _)
      cases kind with
      | closed => exact absurd rfl h
      | opening | opened | request | response => simp [ofKinds, hempty, hpayload, observe]
    · cases kind with
      | closed => exact absurd rfl h
      | opening | opened | request | response => simp_all [ofKinds, observe]

theorem name_ofKinds (kinds : List ActivityKind) : (ofKinds kinds).name = openName kinds := by
  unfold ofKinds openName
  split
  · rfl
  · split <;> rfl

theorem name_observe_closed_ofKinds (kinds : List ActivityKind) :
    ((ofKinds kinds).observe .closed).name = closedName kinds := by
  unfold ofKinds closedName
  split
  · rfl
  · split <;> rfl

/-- Order and number of the events do not matter. -/
theorem names_congr {kinds others : List ActivityKind}
    (h : ∀ kind, kind ∈ kinds ↔ kind ∈ others) :
    openName kinds = openName others ∧ closedName kinds = closedName others := by
  have hempty : kinds = [] ↔ others = [] := by
    simp only [List.eq_nil_iff_forall_not_mem, h]
  constructor
  · simp only [openName, hempty, h]
  · simp only [closedName, hempty, h]

end Status

namespace Field

/-- The status of an open connection is told by the kinds of its events. -/
theorem observeAll_status {events : List Event} (h : ∀ e ∈ events, e.kind ≠ .closed) :
    (start .status).observeAll events = status (.ofKinds (events.map Event.kind)) := by
  induction events using List.reverseRecOn with
  | nil => rfl
  | append_singleton past e ih =>
    obtain ⟨hpast, hlast⟩ := List.forall_mem_append.mp h
    have he : e.kind ≠ .closed := hlast e (List.mem_singleton_self e)
    rw [observeAll_concat, ih hpast, List.map_append, List.map_singleton, ← Status.observe_ofKinds _ he]
    rfl

end Field

namespace Flow

variable {program : Program} {i : Nat} {c : ProgramColumn}

/-- The status of a flow before its close. -/
theorem text?_status (hc : program.columns[i]? = some c) (hstatus : c.column = .status)
    (id : Connection) {events : List Event} (h : ∀ e ∈ events, e.kind ≠ .closed)
    (written : Instant) :
    ((start id program).observeAll events).text? i written =
      some (Bytes.ofString (Status.openName (events.map Event.kind))) := by
  rw [text?_observeAll_start hc, hstatus, Field.observeAll_status h, ← Status.name_ofKinds]
  rfl

/-- The status of a flow at its close. -/
theorem text?_status_concat_of_closed (hc : program.columns[i]? = some c)
    (hstatus : c.column = .status) (id : Connection) {events : List Event}
    (h : ∀ e ∈ events, e.kind ≠ .closed) {close : Event} (hclose : close.kind = .closed)
    (written : Instant) :
    ((start id program).observeAll (events ++ [close])).text? i written =
      some (Bytes.ofString (Status.closedName (events.map Event.kind))) := by
  rw [text?_observeAll_start hc, hstatus, Field.observeAll_concat, Field.observeAll_status h,
    ← Status.name_observe_closed_ofKinds, ← hclose]
  rfl

end Flow

namespace Session

/-- As long as a connection is open its status is `unknown` without any event,
`continue` if there has been payload and `start` if there has not; at the close
these turn into `unknown`, `last` and `unique`.  Each record of a session is that
of a flow with one close behind its other events, so it shows the status of their
kinds, whatever their order and their number. -/
theorem status_of_kinds {program : Program} {i : Nat} {c : ProgramColumn}
    (hc : program.columns[i]? = some c) (hstatus : c.column = .status) :
    (∀ (id : Connection) (events : List Event) (close : Event) (written : Instant),
      (∀ e ∈ events, e.kind ≠ .closed) → close.kind = .closed →
        let kinds := events.map Event.kind
        let flow := (Flow.start id program).observeAll events
        flow.text? i written = some (Bytes.ofString (Status.openName kinds)) ∧
          (flow.observe close).text? i written =
            some (Bytes.ofString (Status.closedName kinds))) ∧
    (∀ (events : List Event) (call : PrintCall), call ∈ calls program events →
      ∃ past close, past ++ [close] <+: events ∧ close.kind = .closed ∧
        let kinds := (close.id.sinceClose past).map Event.kind
        let flow := Flow.closing program past close
        call = ⟨flow.fields, close.time⟩ ∧ .closed ∉ kinds ∧
          flow.text? i close.time = some (Bytes.ofString (Status.closedName kinds))) ∧
    ∀ kinds others : List ActivityKind, (∀ kind, kind ∈ kinds ↔ kind ∈ others) →
      Status.openName kinds = Status.openName others ∧
        Status.closedName kinds = Status.closedName others := by
  refine ⟨?_, ?_, fun _ _ => Status.names_congr⟩
  · intro id events close written hevents hclose kinds flow
    refine ⟨Flow.text?_status hc hstatus id hevents written, ?_⟩
    rw [← Flow.text?_status_concat_of_closed hc hstatus id hevents hclose written,
      Flow.observeAll_append]
    rfl
  · intro events call hcall
    obtain ⟨past, close, hprefix, hclose, rfl⟩ := exists_close_of_mem_calls hcall
    have hhistory : ∀ e ∈ close.id.sinceClose past, e.kind ≠ .closed := fun e he =>
      Connection.kind_ne_closed_of_mem_sinceClose he
    refine ⟨past, close, hprefix, hclose, rfl, ?_, ?_⟩
    · intro hmem
      obtain ⟨e, he, hkind⟩ := List.mem_map.mp hmem
      exact hhistory e he hkind
    · exact Flow.text?_status_concat_of_closed hc hstatus close.id hhistory hclose close.time

/-- Handshake events behind payload change nothing, however many there are. -/
theorem status_of_late_handshake :
    let id : Connection := ⟨.v4 0x0A000001 40000, .v4 0x0A000002 80⟩
    let program : Program := ⟨[⟨"status", none, .status⟩]⟩
    let event (activity : Activity) : Event := ⟨id, .epoch, activity⟩
    let flow := (Flow.start id program).observeAll
      [event (.response [0x4F]), event .opened, event .opening, event .opened]
    flow.text? 0 .epoch = some (Bytes.ofString "continue") ∧
      (flow.observe (event (.closed []))).text? 0 .epoch = some (Bytes.ofString "last") :=
  (status_of_kinds (c := ⟨"status", none, .status⟩) rfl rfl).1
    ⟨.v4 0x0A000001 40000, .v4 0x0A000002 80⟩ _ _ .epoch (by decide) rfl

end Session

end TcpJournal
