import TcpJournal.Proofs.Address.Endpoint
import TcpJournal.Proofs.Instant.Rfc3339
import TcpJournal.Proofs.Json.Members
import TcpJournal.Trace.Line

/-!
# Events as objects

An event is written as an object: its kind, its two endpoints, its time and, under the key of
its kind, its bytes, as a list or, where a payload is UTF-8, as a string.  Reading the line
gives the event back, in whichever order and spelling the members stand
(`Trace.parseLine?_of_isObject`).  A further member with bytes changes nothing if the kind does
not use its key (`Trace.ofJson?_of_addsMember`).
-/

namespace TcpJournal

namespace Trace

open JsonValue (AddsMember Content IsObject Lists objectText)

/-- The key under which an event of a kind has its bytes. -/
def bytesKey? : ActivityKind → Option String
  | .opening | .opened => none
  | .request | .response => some "data"
  | .closed => some "packet"

/-- The members that every event has. -/
def frame (mark : Instant.UtcMark) (e : Event) : List (List Char × Content) :=
  [("event".toList, .text e.kind.name.toList),
    ("client".toList, .text e.id.client.text),
    ("server".toList, .text e.id.server.text),
    ("at".toList, .text (e.time.rfc3339 mark))]

/-- The member that lists the bytes of an event, if its kind has any. -/
def byteMembers (e : Event) : List (List Char × Content) :=
  (bytesKey? e.kind).toList.map fun key => (key.toList, .bytes e.data)

/-- The bytes of an event are listed under the key of its kind; a payload may instead be the
text that has it as its UTF-8. -/
inductive HoldsBytes (e : Event) : List (List Char × Content) → Prop where
  | list : HoldsBytes e (byteMembers e)
  | text {t : List Char} (h : bytesKey? e.kind = some "data") (ht : e.data = Bytes.ofText t) :
    HoldsBytes e [("data".toList, .text t)]

/-- Bytes under a key that events of a kind do not use: a payload, or a packet, which is no
text. -/
inductive Unused (kind : ActivityKind) : String → Content → Prop where
  | data {content : Content} (h : bytesKey? kind ≠ some "data") : Unused kind "data" content
  | packet {content : Content} (h : bytesKey? kind ≠ some "packet")
    (hcontent : ∀ t, content ≠ .text t) : Unused kind "packet" content

/-! ## The parts of an event -/

theorem exists_raw_of_text? {value : JsonValue} {t : List Char} (h : value.text? = some t) :
    ∃ raw, value = .string raw ∧ JsonValue.rawText? raw = some t := by
  cases value with
  | string raw => exact ⟨raw, rfl, h⟩
  | _ => cases h

theorem exists_items_of_bytes? {value : JsonValue} {b : Bytes} (h : value.bytes? = some b) :
    ∃ items, value = .array items := by
  cases value with
  | array items => exact ⟨items, rfl⟩
  | _ => cases h

theorem ofName?_name (kind : ActivityKind) : ActivityKind.ofName? kind.name = some kind := by
  cases kind <;> rfl

theorem kind?_of_text {value : JsonValue} {kind : ActivityKind}
    (h : value.text? = some kind.name.toList) : kind? value = some kind := by
  obtain ⟨raw, rfl, -⟩ := exists_raw_of_text? h
  rw [kind?]
  · rw [h, Option.bind_some, String.ofList_toList, ofName?_name]
  · nofun

theorem endpoint?_of_text {value : JsonValue} {e : Endpoint} (h : value.text? = some e.text) :
    endpoint? value = some e := by
  rw [endpoint?, h, Option.bind_some, Endpoint.parse?_text]

theorem instant?_of_text {value : JsonValue} {mark : Instant.UtcMark} {t : Instant}
    (h : value.text? = some (t.rfc3339 mark)) : instant? value = some t := by
  rw [instant?, h, Option.bind_some, Instant.parse?_rfc3339]

theorem payload?_of_bytes {value : JsonValue} {b : Bytes} (h : value.bytes? = some b) :
    payload? value = some b := by
  obtain ⟨items, rfl⟩ := exists_items_of_bytes? h
  exact h

theorem payload?_of_text {value : JsonValue} {t : List Char} (h : value.text? = some t) :
    payload? value = some (Bytes.ofText t) := by
  obtain ⟨raw, rfl, hraw⟩ := exists_raw_of_text? h
  rw [payload?, hraw, Option.map_some]

theorem packet?_of_bytes {value : JsonValue} {b : Bytes} (h : value.bytes? = some b) :
    packet? value = some b := by
  obtain ⟨items, rfl⟩ := exists_items_of_bytes? h
  exact h

theorem exists_payload? {content : Content} {value : JsonValue} (h : content.Holds value) :
    ∃ payload, payload? value = some payload := by
  cases content with
  | null => exact ⟨[], by rw [show value = .null from h]; rfl⟩
  | text t => exact ⟨_, payload?_of_text h⟩
  | bytes b => exact ⟨b, payload?_of_bytes h⟩

theorem exists_packet? {content : Content} {value : JsonValue} (h : content.Holds value)
    (hcontent : ∀ t, content ≠ .text t) : ∃ packet, packet? value = some packet := by
  cases content with
  | null => exact ⟨[], by rw [show value = .null from h]; rfl⟩
  | text t => exact absurd rfl (hcontent t)
  | bytes b => exact ⟨b, packet?_of_bytes h⟩

/-! ## Events read back -/

/-- The event of the values that every event has, and of the bytes among the members. -/
def bytesEvent? (members : List (List Char × JsonValue)) (event client server time : JsonValue) :
    Option Event := do
  let data ← JsonValue.unique? members "data"
  let packet ← JsonValue.unique? members "packet"
  event? event client server time (data.getD .null) (packet.getD .null)

/-- The event of members whose keys are texts. -/
def keyedEvent? (members : List (List Char × JsonValue)) : Option Event := do
  let event ← (← JsonValue.unique? members "event")
  let client ← (← JsonValue.unique? members "client")
  let server ← (← JsonValue.unique? members "server")
  let time ← (← JsonValue.unique? members "at")
  bytesEvent? members event client server time

theorem ofJson?_object (members : List (Bytes × JsonValue)) :
    ofJson? (.object members) = (JsonValue.keyed? members).bind keyedEvent? :=
  rfl

theorem parseLine?_of_parse? {line : List Char} {document : JsonValue}
    (h : JsonValue.parse? (Bytes.ofText line) = some document) :
    parseLine? line = ofJson? document := by
  rw [parseLine?, h, Option.bind_some]

/-- The bytes that a kind does not use do not matter. -/
theorem ofKind_eq {e : Event} {payload packet : Bytes}
    (hpayload : bytesKey? e.kind = some "data" → payload = e.data)
    (hpacket : bytesKey? e.kind = some "packet" → packet = e.data) :
    Activity.ofKind e.kind payload packet = e.activity := by
  obtain ⟨id, time, activity⟩ := e
  cases activity with
  | opening => rfl
  | opened => rfl
  | request bytes => exact congrArg Activity.request (hpayload rfl)
  | response bytes => exact congrArg Activity.response (hpayload rfl)
  | closed bytes => exact congrArg Activity.closed (hpacket rfl)

theorem eq_of_bytesKey? {kind : ActivityKind} {key : String} (h : bytesKey? kind = some key) :
    key = "data" ∨ key = "packet" := by
  revert h
  cases kind <;> simp +contextual [bytesKey?, eq_comm]

/-- The bytes of an event make up what happened. -/
theorem HoldsBytes.exists_activity {e : Event} {mark : Instant.UtcMark}
    {members : List (List Char × Content)} (hbytes : HoldsBytes e members)
    {keyed : List (List Char × JsonValue)} (h : Lists keyed (frame mark e ++ members)) :
    ∃ data packet payload bytes,
      JsonValue.unique? keyed "data" = some data ∧
      JsonValue.unique? keyed "packet" = some packet ∧
      payload? (data.getD .null) = some payload ∧ packet? (packet.getD .null) = some bytes ∧
      Activity.ofKind e.kind payload bytes = e.activity := by
  cases hbytes with
  | list =>
    -- The key of the kind decides which of the two members is there.
    rw [byteMembers] at h
    cases hkey : bytesKey? e.kind with
    | none =>
      rw [hkey] at h
      refine ⟨none, none, [], [], h.unique?_eq_none _ rfl, h.unique?_eq_none _ rfl, rfl, rfl, ?_⟩
      exact ofKind_eq (by simp [hkey]) (by simp [hkey])
    | some key =>
      rw [hkey] at h
      obtain rfl | rfl := eq_of_bytesKey? hkey
      · obtain ⟨value, hvalue, hholds⟩ := h.exists_unique? "data" rfl
        refine ⟨some value, none, e.data, [], hvalue, h.unique?_eq_none _ rfl,
          payload?_of_bytes hholds, rfl, ?_⟩
        exact ofKind_eq (fun _ => rfl) (by simp [hkey])
      · obtain ⟨value, hvalue, hholds⟩ := h.exists_unique? "packet" rfl
        refine ⟨none, some value, [], e.data, h.unique?_eq_none _ rfl, hvalue, rfl,
          packet?_of_bytes hholds, ?_⟩
        exact ofKind_eq (by simp [hkey]) (fun _ => rfl)
  | @text t hkey ht =>
    obtain ⟨value, hvalue, hholds⟩ := h.exists_unique? "data" rfl
    refine ⟨some value, none, Bytes.ofText t, [], hvalue, h.unique?_eq_none _ rfl,
      payload?_of_text hholds, rfl, ?_⟩
    exact ofKind_eq (fun _ => ht.symm) (by simp [hkey])

/-- The bytes stand under no key that every event has. -/
theorem HoldsBytes.filter_frame {e : Event} {mark : Instant.UtcMark}
    {members : List (List Char × Content)} (hbytes : HoldsBytes e members) {key : String}
    (hdata : key ≠ "data") (hpacket : key ≠ "packet") :
    ((frame mark e ++ members).filter fun member => member.1 = key.toList) =
      (frame mark e).filter fun member => member.1 = key.toList := by
  have hnone : (members.filter fun member => member.1 = key.toList) = [] := by
    rw [List.filter_eq_nil_iff]
    intro member hmember hsame
    have hkey : member.1 = key.toList := of_decide_eq_true hsame
    cases hbytes with
    | list =>
      obtain ⟨own, hown, rfl⟩ := List.mem_map.mp hmember
      obtain rfl := String.toList_inj.mp hkey
      exact (eq_of_bytesKey? (Option.mem_toList.mp hown)).elim hdata hpacket
    | text =>
      rw [List.mem_singleton.mp hmember] at hkey
      exact hdata (String.toList_inj.mp hkey).symm
  rw [List.filter_append, hnone, List.append_nil]

/-- A line that is an object with the members of an event is read as the event. -/
theorem parseLine?_of_isObject {e : Event} {mark : Instant.UtcMark}
    {members : List (List Char × Content)} (hbytes : HoldsBytes e members) {line : List Char}
    (h : IsObject (Bytes.ofText line) (frame mark e ++ members)) : parseLine? line = some e := by
  obtain ⟨raw, keyed, hparse, hkeyed, hlists⟩ := h.exists_keyed?
  have hframe (key : String) {content : Content} (hdata : key ≠ "data") (hpacket : key ≠ "packet")
      (hone : ((frame mark e).filter fun member => member.1 = key.toList) =
        [(key.toList, content)]) :
      ∃ value, JsonValue.unique? keyed key = some (some value) ∧ content.Holds value :=
    hlists.exists_unique? key ((hbytes.filter_frame hdata hpacket).trans hone)
  obtain ⟨event, hevent, hkind⟩ := hframe "event" (by decide) (by decide) rfl
  obtain ⟨client, hclient, hfrom⟩ := hframe "client" (by decide) (by decide) rfl
  obtain ⟨server, hserver, hto⟩ := hframe "server" (by decide) (by decide) rfl
  obtain ⟨time, htime, hat⟩ := hframe "at" (by decide) (by decide) rfl
  obtain ⟨data, packet, payload, bytes, hdata, hpacket, hpayload, hbytes, hactivity⟩ :=
    hbytes.exists_activity hlists
  rw [parseLine?_of_parse? hparse, ofJson?_object, hkeyed, Option.bind_some, keyedEvent?,
    hevent, hclient, hserver, htime]
  change bytesEvent? keyed event client server time = some e
  rw [bytesEvent?, hdata, hpacket]
  change event? event client server time (data.getD .null) (packet.getD .null) = some e
  rw [event?, kind?_of_text hkind, endpoint?_of_text hfrom, endpoint?_of_text hto,
    instant?_of_text hat, hpayload, hbytes]
  change some (Event.mk _ _ (Activity.ofKind e.kind payload bytes)) = some e
  rw [hactivity]

/-! ## Bytes that are not used -/

theorem event?_data {event : JsonValue} {kind : ActivityKind} (hkind : kind? event = some kind)
    (hkey : bytesKey? kind ≠ some "data") {data : JsonValue} {payload : Bytes}
    (hdata : payload? data = some payload) (client server time packet : JsonValue) :
    event? event client server time data packet =
      event? event client server time .null packet := by
  rw [event?, event?, hkind, hdata]
  cases kind with
  | request | response => exact absurd rfl hkey
  | opening | opened | closed => rfl

theorem event?_packet {event : JsonValue} {kind : ActivityKind} (hkind : kind? event = some kind)
    (hkey : bytesKey? kind ≠ some "packet") {packet : JsonValue} {bytes : Bytes}
    (hpacket : packet? packet = some bytes) (client server time data : JsonValue) :
    event? event client server time data packet =
      event? event client server time data .null := by
  rw [event?, event?, hkind, hpacket]
  cases kind with
  | closed => exact absurd rfl hkey
  | opening | opened | request | response => rfl

/-- The kind that the members of an object name. -/
def NamesKind (members : List (Bytes × JsonValue)) (kind : ActivityKind) : Prop :=
  ∃ member ∈ members,
    JsonValue.rawText? member.1 = some "event".toList ∧ kind? member.2 = some kind

theorem namesKind_frame (mark : Instant.UtcMark) (e : Event) (rest : List (List Char × Content)) :
    NamesKind ((frame mark e ++ rest).map JsonValue.ofMember) e.kind :=
  ⟨_, List.mem_cons_self, JsonValue.rawText?_escaped _,
    kind?_of_text (JsonValue.rawText?_escaped _)⟩

theorem exists_of_namesKind {members : List (Bytes × JsonValue)} {kind : ActivityKind}
    (h : NamesKind members kind) {keyed : List (List Char × JsonValue)}
    (hkeyed : JsonValue.keyed? members = some keyed) :
    ∃ member ∈ keyed, member.1 = "event".toList ∧ kind? member.2 = some kind := by
  obtain ⟨⟨key, value⟩, hmember, hkey, hkind⟩ := h
  obtain ⟨before, after, rfl⟩ := List.append_of_mem hmember
  rw [JsonValue.keyed?_append, JsonValue.keyed?_cons, hkey, Option.bind_some] at hkeyed
  obtain ⟨front, -, hrest⟩ := Option.bind_eq_some_iff.mp hkeyed
  obtain ⟨later, hlater, rfl⟩ := Option.map_eq_some_iff.mp hrest
  obtain ⟨back, -, rfl⟩ := Option.map_eq_some_iff.mp hlater
  exact ⟨_, List.mem_append_right _ List.mem_cons_self, rfl, hkind⟩

section

variable {before after : List (List Char × JsonValue)} {key : String} {value : JsonValue}
  {content : Content} {kind : ActivityKind} (hunused : Unused kind key content)
  (hholds : content.Holds value) (habsent : ∀ member ∈ before ++ after, member.1 ≠ key.toList)

include hunused hholds habsent

theorem bytesEvent?_insert {event : JsonValue} (hkind : kind? event = some kind)
    (client server time : JsonValue) :
    bytesEvent? (before ++ (key.toList, value) :: after) event client server time =
      bytesEvent? (before ++ after) event client server time := by
  obtain ⟨hnone, hsome⟩ := JsonValue.unique?_insert_self value habsent
  cases hunused with
  | data hkey =>
    obtain ⟨payload, hpayload⟩ := exists_payload? hholds
    rw [bytesEvent?, bytesEvent?, hsome, hnone, JsonValue.unique?_insert value (by decide)]
    simp only [Option.bind_eq_bind, Option.bind_some]
    refine Option.bind_congr fun packet _ => ?_
    exact event?_data hkind hkey hpayload client server time _
  | packet hkey hcontent =>
    obtain ⟨bytes, hbytes⟩ := exists_packet? hholds hcontent
    rw [bytesEvent?, bytesEvent?, hsome, hnone, JsonValue.unique?_insert value (by decide)]
    refine Option.bind_congr fun data _ => ?_
    exact event?_packet hkind hkey hbytes client server time _

theorem keyedEvent?_insert
    (hkind : ∃ member ∈ before ++ after, member.1 = "event".toList ∧ kind? member.2 = some kind) :
    keyedEvent? (before ++ (key.toList, value) :: after) = keyedEvent? (before ++ after) := by
  have hframe (other : String) (h : other ≠ "data" ∧ other ≠ "packet") :
      JsonValue.unique? (before ++ (key.toList, value) :: after) other =
        JsonValue.unique? (before ++ after) other := by
    refine JsonValue.unique?_insert value fun hsame => ?_
    cases hunused with
    | data => exact h.1 (String.toList_inj.mp hsame).symm
    | packet => exact h.2 (String.toList_inj.mp hsame).symm
  rw [keyedEvent?, keyedEvent?, hframe "event" (by decide), hframe "client" (by decide),
    hframe "server" (by decide), hframe "at" (by decide)]
  -- Only the value of the event matters here: the others are the same on both sides.
  refine Option.bind_congr fun found hfound => Option.bind_congr fun event hsame => ?_
  subst hsame
  refine Option.bind_congr fun _ _ => Option.bind_congr fun client _ => ?_
  refine Option.bind_congr fun _ _ => Option.bind_congr fun server _ => ?_
  refine Option.bind_congr fun _ _ => Option.bind_congr fun time _ => ?_
  obtain ⟨member, hmember, hname, hkind⟩ := hkind
  rw [JsonValue.eq_of_unique? hfound hmember hname] at hkind
  exact bytesEvent?_insert hunused hholds habsent hkind client server time

end

/-- Bytes under a key that the kind of the event does not use change nothing. -/
theorem ofJson?_of_addsMember {members more : List (Bytes × JsonValue)} {key : String}
    {content : Content} {kind : ActivityKind} (hadds : AddsMember key content members more)
    (hkind : NamesKind members kind) (hunused : Unused kind key content) :
    ofJson? (.object more) = ofJson? (.object members) := by
  obtain @⟨before, after, ⟨rawKey, value⟩, ⟨hkey, hholds⟩, habsent⟩ := hadds
  rw [ofJson?_object, ofJson?_object, JsonValue.keyed?_append, JsonValue.keyed?_append,
    JsonValue.keyed?_cons, hkey, Option.bind_some]
  -- A key without a text spoils both objects.
  cases hfront : JsonValue.keyed? before with
  | none => rfl
  | some front =>
    cases hback : JsonValue.keyed? after with
    | none => rfl
    | some back =>
      have hkeyed : JsonValue.keyed? (before ++ after) = some (front ++ back) := by
        rw [JsonValue.keyed?_append, hfront, hback]
        rfl
      refine keyedEvent?_insert hunused hholds (fun member hmember hname => ?_)
        (exists_of_namesKind hkind hkeyed)
      obtain ⟨raw, hraw, hsame⟩ := JsonValue.exists_of_mem_keyed? hkeyed hmember
      exact habsent raw hraw (hsame.trans (congrArg some hname))

/-- Every event is read back from its object, with its bytes listed or with its payload as a
text, and from every other spelling of such an object.  A member more with bytes that the kind
does not use leaves what is read from a line as it is. -/
theorem parseLine?_of_event (e : Event) (mark : Instant.UtcMark) :
    parseLine? (objectText (frame mark e ++ byteMembers e)) = some e ∧
    (∀ t, bytesKey? e.kind = some "data" → e.data = Bytes.ofText t →
      parseLine? (objectText (frame mark e ++ [("data".toList, .text t)])) = some e) ∧
    (∀ line members, HoldsBytes e members →
      IsObject (Bytes.ofText line) (frame mark e ++ members) → parseLine? line = some e) ∧
    ∀ line wider members more key content kind,
      JsonValue.parse? (Bytes.ofText line) = some (.object members) →
      JsonValue.parse? (Bytes.ofText wider) = some (.object more) →
      AddsMember key content members more → NamesKind members kind →
      Unused kind key content → parseLine? wider = parseLine? line := by
  refine ⟨?_, fun t hkey ht => ?_, fun _ _ hbytes h => ?_, ?_⟩
  · exact parseLine?_of_isObject .list (JsonValue.isObject_objectText _)
  · exact parseLine?_of_isObject (.text hkey ht) (JsonValue.isObject_objectText _)
  · exact parseLine?_of_isObject hbytes h
  · intro line wider members more key content kind hline hwider hadds hkind hunused
    rw [parseLine?_of_parse? hline, parseLine?_of_parse? hwider,
      ofJson?_of_addsMember hadds hkind hunused]

/-- A request that says hi. -/
def greeting : Event :=
  ⟨⟨.v4 0x7F000001 50000, .v6 1 80 0⟩, .epoch, .request [0x68, 0x69]⟩

/-- The greeting is read from a list and from a text, and a packet changes nothing. -/
theorem parseLine?_greeting :
    parseLine? (objectText (frame .zulu greeting ++ [("data".toList, .bytes [0x68, 0x69])])) =
      some greeting ∧
    parseLine? (objectText (frame .offset greeting ++ [("data".toList, .text "hi".toList)])) =
      some greeting ∧
    parseLine? (objectText (("data".toList, .text "hi".toList) :: frame .zulu greeting)) =
      some greeting ∧
    parseLine? (objectText (frame .zulu greeting ++
      ("packet".toList, .bytes [0x45]) :: [("data".toList, .text "hi".toList)])) =
      some greeting := by
  obtain ⟨hlist, htext, hobject, hunused⟩ := parseLine?_of_event greeting .zulu
  obtain ⟨-, hoffset, -⟩ := parseLine?_of_event greeting .offset
  have hbytes : greeting.data = Bytes.ofText "hi".toList := by decide
  refine ⟨hlist, hoffset "hi".toList rfl hbytes, ?_, ?_⟩
  · exact hobject _ _ (.text rfl hbytes)
      ((JsonValue.isObject_objectText _).perm (List.perm_append_singleton _ _).symm)
  · exact (hunused _ _ _ _ _ _ _ (JsonValue.parse?_objectText _) (JsonValue.parse?_objectText _)
      (JsonValue.addsMember_ofMember _ (by decide)) (namesKind_frame .zulu greeting _)
      (.packet (by decide) (by simp))).trans (htext "hi".toList rfl hbytes)

end Trace

end TcpJournal
