import Mathlib.Data.List.Basic
import Mathlib.Data.List.Induction
import TcpJournal.Proofs.Field.Rendering

/-!
# Endpoints in the record of a close

Addresses and ports stay with the first payload of their direction, while the
addresses that may have closed a connection follow the latest payload.  The
packet that ends a connection is not to be trusted: it may be cut short, or come
from elsewhere.  Its source is shown only if it is the address behind the latest
payload in one of the directions (`Flow.endpoints_of_close`).
-/

namespace TcpJournal

namespace Direction

/-- The endpoint that sent the first payload in a direction. -/
def firstSender (direction : Direction) (events : List Event) : Option Endpoint :=
  (events.find? fun e => e.kind = direction.kind).map fun e => direction.sender e.id

/-- The endpoint that sent the latest payload in a direction. -/
def latestSender (direction : Direction) (events : List Event) : Option Endpoint :=
  (events.reverse.find? fun e => e.kind = direction.kind).map fun e => direction.sender e.id

theorem firstSender_concat (direction : Direction) (past : List Event) (e : Event) :
    direction.firstSender (past ++ [e]) =
      if e.kind = direction.kind then
        some ((direction.firstSender past).getD (direction.sender e.id))
      else direction.firstSender past := by
  rw [firstSender, firstSender, List.find?_append]
  cases past.find? fun e => e.kind = direction.kind with
  | none => by_cases h : e.kind = direction.kind <;> simp [h]
  | some first => simp

theorem latestSender_concat (direction : Direction) (past : List Event) (e : Event) :
    direction.latestSender (past ++ [e]) =
      if e.kind = direction.kind then some (direction.sender e.id)
      else direction.latestSender past := by
  rw [latestSender, latestSender, List.reverse_concat, List.find?_cons]
  by_cases h : e.kind = direction.kind <;> simp [h]

theorem exists_of_latestSender_eq_some {direction : Direction} {events : List Event}
    {sender : Endpoint} (h : direction.latestSender events = some sender) :
    ∃ e ∈ events, e.kind = direction.kind ∧ direction.sender e.id = sender := by
  obtain ⟨e, he, rfl⟩ := Option.map_eq_some_iff.mp h
  have hmem := List.mem_reverse.mp (List.mem_of_find?_eq_some he)
  exact ⟨e, hmem, by simpa using List.find?_some he, rfl⟩

end Direction

namespace Packet

/-- The packet has the version in the high half of its first byte, and `length` bytes
of it behind the first `start` are the given ones. -/
def HasSourceAt (packet : Bytes) (version start length : Nat) (source : Bytes) : Prop :=
  ∃ first header rest, packet = header ++ source ++ rest ∧ header.head? = some first ∧
    first.toNat / 16 = version ∧ header.length = start ∧ source.length = length

/-- The header of a packet names an address as the source: four bytes behind the
first twelve in version 4, sixteen bytes behind the first eight in version 6. -/
inductive Carries (packet : Bytes) : Address → Prop
  | v4 {source : Bytes} (h : HasSourceAt packet 4 12 4 source) :
      Carries packet (.v4 (.ofNat 32 (Address.bigEndian source)))
  | v6 {source : Bytes} (h : HasSourceAt packet 6 8 16 source) :
      Carries packet (.v6 (.ofNat 128 (Address.bigEndian source)))

theorem slice?_eq_some_iff {packet source : Bytes} {start stop : Nat} (h : start ≤ stop) :
    slice? packet start stop = some source ↔
      ∃ header rest, packet = header ++ source ++ rest ∧ header.length = start ∧
        source.length = stop - start := by
  unfold slice?
  constructor
  · intro hslice
    split at hslice
    · next hlength =>
      cases hslice
      refine ⟨packet.take start, packet.drop stop, ?_, ?_, ?_⟩
      · have hfront : packet.take start = (packet.take stop).take start := by
          rw [List.take_take, Nat.min_eq_left h]
        rw [hfront, List.take_append_drop, List.take_append_drop]
      · rw [List.length_take, Nat.min_eq_left (Nat.le_trans h hlength)]
      · rw [List.length_drop, List.length_take, Nat.min_eq_left hlength]
    · cases hslice
  · rintro ⟨header, rest, rfl, hheader, hsource⟩
    have hfront : (header ++ source).length = stop := by
      rw [List.length_append, hheader, hsource, Nat.add_sub_cancel' h]
    have hlength : stop ≤ (header ++ source ++ rest).length := by
      rw [List.length_append, hfront]
      exact Nat.le_add_right _ _
    rw [if_pos hlength, List.take_left' hfront, List.drop_left' hheader]

/-- The first byte of a packet stands in front of its source. -/
theorem hasSourceAt_iff {packet source : Bytes} {version start length : Nat} (h : 0 < start) :
    HasSourceAt packet version start length source ↔
      ∃ first, packet.head? = some first ∧ first.toNat / 16 = version ∧
        slice? packet start (start + length) = some source := by
  have hhead : ∀ header rest : Bytes, header.length = start →
      (header ++ source ++ rest).head? = header.head? := by
    intro header rest hheader
    cases header with
    | nil => exact absurd hheader (Nat.ne_of_lt h)
    | cons b header => rfl
  have hslice : slice? packet start (start + length) = some source ↔
      ∃ header rest, packet = header ++ source ++ rest ∧ header.length = start ∧
        source.length = length := by
    rw [slice?_eq_some_iff (Nat.le_add_right start length), Nat.add_sub_cancel_left]
  constructor
  · rintro ⟨first, header, rest, hpacket, hfirst, hversion, hheader, hsource⟩
    refine ⟨first, ?_, hversion, hslice.mpr ⟨header, rest, hpacket, hheader, hsource⟩⟩
    rw [hpacket, hhead header rest hheader, hfirst]
  · rintro ⟨first, hfirst, hversion, hfound⟩
    obtain ⟨header, rest, hpacket, hheader, hsource⟩ := hslice.mp hfound
    rw [hpacket, hhead header rest hheader] at hfirst
    exact ⟨first, header, rest, hpacket, hfirst, hversion, hheader, hsource⟩

/-- A packet has a source exactly if its header names it. -/
theorem source?_eq_some_iff {packet : Bytes} {a : Address} :
    source? packet = some a ↔ Carries packet a := by
  constructor
  · intro h
    unfold source? at h
    split at h
    · cases h
    · next first hfirst =>
      split at h
      · next hversion =>
        obtain ⟨source, hsource, rfl⟩ := Option.map_eq_some_iff.mp h
        exact .v4 ((hasSourceAt_iff (by decide)).mpr ⟨first, hfirst, hversion, hsource⟩)
      · split at h
        · next hversion =>
          obtain ⟨source, hsource, rfl⟩ := Option.map_eq_some_iff.mp h
          exact .v6 ((hasSourceAt_iff (by decide)).mpr ⟨first, hfirst, hversion, hsource⟩)
        · cases h
  · intro h
    cases h with
    | v4 h =>
      obtain ⟨first, hfirst, hversion, hsource⟩ := (hasSourceAt_iff (by decide)).mp h
      simp [source?, hfirst, hversion, hsource]
    | v6 h =>
      obtain ⟨first, hfirst, hversion, hsource⟩ := (hasSourceAt_iff (by decide)).mp h
      simp [source?, hfirst, hversion, hsource]

end Packet

/-- A close with this packet behind these events comes from an address: the packet
names it, and the latest payload in one of the directions came from it. -/
def Closer.ClosedBy (past : List Event) (packet : Bytes) (a : Address) : Prop :=
  Packet.Carries packet a ∧
    ∃ direction : Direction, (direction.latestSender past).map Endpoint.address = some a

namespace Closer

/-- The closer after events keeps the addresses of the latest payload. -/
theorem exists_foldl_observe (events : List Event) :
    ∃ closedBy, events.foldl observe unseen =
      ⟨(Direction.request.latestSender events).map Endpoint.address,
        (Direction.response.latestSender events).map Endpoint.address, closedBy⟩ := by
  induction events using List.reverseRecOn with
  | nil => exact ⟨none, rfl⟩
  | append_singleton past e ih =>
    obtain ⟨closedBy, hpast⟩ := ih
    rw [List.foldl_concat, hpast, Direction.latestSender_concat, Direction.latestSender_concat,
      observe]
    unfold Event.kind
    cases e.activity <;> exact ⟨_, rfl⟩

/-- At a close the address is shown that the close comes from. -/
theorem closedBy_eq_some_iff {past : List Event} {close : Event} (h : close.kind = .closed)
    {a : Address} :
    ((past.foldl observe unseen).observe close).closedBy = some a ↔
      ClosedBy past close.data a := by
  obtain ⟨closedBy, hpast⟩ := exists_foldl_observe past
  obtain ⟨packet, hpacket⟩ : ∃ packet, close.activity = .closed packet := by
    unfold Event.kind at h
    cases hactivity : close.activity with
    | closed packet => exact ⟨packet, rfl⟩
    | opening | opened | request | response =>
      rw [hactivity] at h
      cases h
  have hdata : close.data = packet := by
    rw [Event.data, hpacket]
    rfl
  have hdirection : (∃ direction : Direction,
      (direction.latestSender past).map Endpoint.address = some a) ↔
        some a = (Direction.request.latestSender past).map Endpoint.address ∨
          some a = (Direction.response.latestSender past).map Endpoint.address := by
    constructor
    · rintro ⟨direction, hsender⟩
      cases direction with
      | request => exact .inl hsender.symm
      | response => exact .inr hsender.symm
    · rintro (hsender | hsender)
      · exact ⟨.request, hsender.symm⟩
      · exact ⟨.response, hsender.symm⟩
  rw [hpast, observe, hpacket, ClosedBy, hdata, hdirection, ← Packet.source?_eq_some_iff]
  simp [Option.filter_eq_some_iff]

theorem text_of_closedBy {past : List Event} {close : Event} (h : close.kind = .closed)
    {a : Address} (ha : ClosedBy past close.data a) :
    ((past.foldl observe unseen).observe close).text = a.text := by
  rw [text, (closedBy_eq_some_iff h).mpr ha]

theorem text_of_not_closedBy {past : List Event} {close : Event} (h : close.kind = .closed)
    (hnone : ∀ a, ¬ClosedBy past close.data a) :
    ((past.foldl observe unseen).observe close).text = "unknown".toList := by
  have hclosedBy : ((past.foldl observe unseen).observe close).closedBy = none :=
    Option.eq_none_iff_forall_ne_some.mpr fun a ha => hnone a ((closedBy_eq_some_iff h).mp ha)
  rw [text, hclosedBy]

/-- The address that a close comes from has sent payload. -/
theorem ClosedBy.exists_payload {past : List Event} {packet : Bytes} {a : Address}
    (h : ClosedBy past packet a) :
    ∃ e ∈ past, ∃ direction : Direction,
      e.kind = direction.kind ∧ (direction.sender e.id).address = a := by
  obtain ⟨-, direction, hsender⟩ := h
  obtain ⟨sender, hlatest, rfl⟩ := Option.map_eq_some_iff.mp hsender
  obtain ⟨e, he, hkind, rfl⟩ := Direction.exists_of_latestSender_eq_some hlatest
  exact ⟨e, he, direction, hkind, rfl⟩

end Closer

namespace Field

/-- A field that takes notice of the first payload of a direction only has seen its
sender. -/
theorem observeAll_eq_map_firstSender {α : Type} {direction : Direction}
    {make : Option α → Field} {read : Endpoint → α}
    (hstep : ∀ first e, (make first).observe e =
      if e.kind = direction.kind then make (some (first.getD (read (direction.sender e.id))))
      else make first)
    (events : List Event) :
    (make none).observeAll events = make ((direction.firstSender events).map read) := by
  induction events using List.reverseRecOn with
  | nil => rfl
  | append_singleton past e ih =>
    rw [observeAll_concat, ih, hstep, Direction.firstSender_concat]
    by_cases h : e.kind = direction.kind
    · rw [if_pos h, if_pos h]
      cases direction.firstSender past <;> rfl
    · rw [if_neg h, if_neg h]

theorem observeAll_address (direction : Direction) (events : List Event) :
    (start (.address direction)).observeAll events =
      address direction ((direction.firstSender events).map Endpoint.address) :=
  observeAll_eq_map_firstSender (fun _ _ => rfl) events

theorem observeAll_port (direction : Direction) (events : List Event) :
    (start (.port direction)).observeAll events =
      port direction ((direction.firstSender events).map Endpoint.port) :=
  observeAll_eq_map_firstSender (fun _ _ => rfl) events

theorem observeAll_closer (events : List Event) :
    (start .closer).observeAll events = closer (events.foldl Closer.observe .unseen) := by
  induction events using List.reverseRecOn with
  | nil => rfl
  | append_singleton past e ih =>
    rw [observeAll_concat, ih, List.foldl_concat]
    rfl

end Field

namespace Flow

/-- At a close, addresses and ports are those of the first payload in their direction,
or `0.0.0.0` and `0` without any.  The address shown as the one that closed the
connection is the source of the close's packet, if the latest payload in one of the
directions came from it, and `unknown` stands in every other case; so no address is
shown there that no payload came from. -/
theorem endpoints_of_close {program : Program} {i : Nat} {c : ProgramColumn}
    (hc : program.columns[i]? = some c) (id : Connection) (past : List Event) {close : Event}
    (hclose : close.kind = .closed) (written : Instant) :
    let text? := ((start id program).observeAll (past ++ [close])).text? i written
    (∀ direction, c.column = .address direction →
      text? = some (Bytes.ofText (((direction.firstSender past).map
        fun sender => sender.address.text).getD "0.0.0.0".toList))) ∧
    (∀ direction, c.column = .port direction →
      text? = some (Bytes.ofText (((direction.firstSender past).map
        fun sender => Decimal.digits sender.port.toNat).getD "0".toList))) ∧
    (c.column = .closer →
      (∀ a, Closer.ClosedBy past close.data a → text? = some (Bytes.ofText a.text)) ∧
      ((∀ a, ¬Closer.ClosedBy past close.data a) → text? = some (Bytes.ofString "unknown")) ∧
      (text? = some (Bytes.ofString "unknown") ∨
        ∃ e ∈ past, ∃ direction : Direction, e.kind = direction.kind ∧
          text? = some (Bytes.ofText (direction.sender e.id).address.text))) := by
  intro text?
  have htext : text? = ((Field.start c.column).observeAll (past ++ [close])).render written :=
    text?_observeAll_start hc id _ written
  have hfirst : ∀ direction : Direction,
      direction.firstSender (past ++ [close]) = direction.firstSender past := by
    intro direction
    rw [Direction.firstSender_concat, hclose]
    cases direction <;> rfl
  refine ⟨?_, ?_, ?_⟩
  · intro direction hcolumn
    rw [htext, hcolumn, Field.observeAll_address, hfirst]
    cases direction.firstSender past <;> rfl
  · intro direction hcolumn
    rw [htext, hcolumn, Field.observeAll_port, hfirst]
    cases direction.firstSender past <;> rfl
  · intro hcolumn
    have hcloser : text? =
        some (Bytes.ofText ((past.foldl Closer.observe .unseen).observe close).text) := by
      rw [htext, hcolumn, Field.observeAll_closer, List.foldl_concat]
      rfl
    have hknown : ∀ a, Closer.ClosedBy past close.data a →
        text? = some (Bytes.ofText a.text) := fun a ha => by
      rw [hcloser, Closer.text_of_closedBy hclose ha]
    have hunknown : (∀ a, ¬Closer.ClosedBy past close.data a) →
        text? = some (Bytes.ofString "unknown") := fun hnone => by
      rw [hcloser, Closer.text_of_not_closedBy hclose hnone]
      rfl
    refine ⟨hknown, hunknown, ?_⟩
    by_cases hnone : ∀ a, ¬Closer.ClosedBy past close.data a
    · exact .inl (hunknown hnone)
    · obtain ⟨a, ha⟩ := not_forall_not.mp hnone
      obtain ⟨e, he, direction, hkind, rfl⟩ := ha.exists_payload
      exact .inr ⟨e, he, direction, hkind, hknown _ ha⟩

/-- The client's address changes between two requests: the record shows the first one
as the client, and a close from the second one counts, as it is the latest. -/
theorem text?_of_changed_client :
    let first : Connection := ⟨.v4 0x0A000001 40000, .v4 0x0A000002 80⟩
    let second : Connection := ⟨.v4 0x0A000009 40009, .v4 0x0A000002 80⟩
    let program : Program := ⟨[⟨"srcip", none, .address .request⟩, ⟨"closer", none, .closer⟩]⟩
    let past : List Event := [⟨first, .epoch, .request [0x47]⟩, ⟨second, .epoch, .request [0x47]⟩]
    let close : Event :=
      ⟨first, .epoch, .closed ([0x45, 0, 0, 0, 0, 0, 0, 0, 0, 0, 0, 0] ++ [10, 0, 0, 9] ++ [])⟩
    let flow := (start first program).observeAll (past ++ [close])
    flow.text? 0 .epoch = some (Bytes.ofString "10.0.0.1") ∧
      flow.text? 1 .epoch = some (Bytes.ofString "10.0.0.9") := by
  intro first second program past close flow
  have hclose : close.kind = .closed := rfl
  obtain ⟨haddress, -, -⟩ :=
    endpoints_of_close (show program.columns[0]? = some _ from rfl) first past hclose .epoch
  obtain ⟨-, -, hcloser⟩ :=
    endpoints_of_close (show program.columns[1]? = some _ from rfl) first past hclose .epoch
  constructor
  · rw [haddress .request rfl]
    decide
  · have hclosedBy : Closer.ClosedBy past close.data (.v4 0x0A000009) :=
      ⟨.v4 ⟨0x45, _, _, rfl, rfl, rfl, rfl, rfl⟩, .request, rfl⟩
    rw [(hcloser rfl).1 _ hclosedBy]
    decide

end Flow

end TcpJournal
