import TcpJournal.Proofs.Bytes.Newlines
import TcpJournal.Proofs.Field.Payload

/-!
# Line breaks in fields

Of the payload of a connection, lines and header lines are captured without
their newlines and counts are digits.  Other columns never look at payload.  So
the newlines of a field come from two places only: those it would also have if
all payload were empty, and those of the raw payload that it echoes
(`Field.count_newline_observeAll`).
-/

namespace TcpJournal

/-- An activity without its payload.  A closing packet is no payload. -/
def Activity.withoutPayload : Activity → Activity
  | .request _ => .request []
  | .response _ => .response []
  | .opening => .opening
  | .opened => .opened
  | .closed packet => .closed packet

namespace Event

/-- An event without its payload. -/
def withoutPayload (e : Event) : Event := { e with activity := e.activity.withoutPayload }

@[simp]
theorem id_withoutPayload (e : Event) : e.withoutPayload.id = e.id := rfl

@[simp]
theorem time_withoutPayload (e : Event) : e.withoutPayload.time = e.time := rfl

@[simp]
theorem kind_withoutPayload (e : Event) : e.withoutPayload.kind = e.kind := by
  unfold withoutPayload kind
  cases e.activity <;> rfl

end Event

/-- Without payload the streams are empty. -/
theorem Direction.stream_map_withoutPayload (direction : Direction) (events : List Event) :
    direction.stream (events.map Event.withoutPayload) = [] := by
  rw [stream, segments, List.filterMap_map, List.flatten_eq_nil_iff]
  intro segment hsegment
  obtain ⟨e, -, he⟩ := List.mem_filterMap.mp hsegment
  obtain ⟨hkind, rfl⟩ : e.kind = direction.kind ∧ e.withoutPayload.data = segment := by
    simpa [payload?] using he
  unfold Event.kind at hkind
  unfold Event.withoutPayload Event.data
  cases hactivity : e.activity with
  | request payload | response payload => rfl
  | opening | opened => rfl
  | closed packet =>
    rw [hactivity] at hkind
    cases direction <;> cases hkind

/-- The column takes notice of the bytes of payload. -/
def Column.readsPayload : Column → Bool
  | .capture .. | .payload _ | .size _ => true
  | .text _ | .address _ | .port _ | .closer | .status | .payloadTime .. | .writtenTime _
  | .span _ => false

theorem CaptureUnit.newline_notMem_extract? {unit : CaptureUnit} {bytes found : Bytes}
    (h : unit.extract? bytes = some found) : Bytes.newline ∉ found := by
  cases unit with
  | firstLine => exact Bytes.newline_notMem_of_firstLine? h
  | headers =>
    obtain ⟨lines, hlines, rfl⟩ := Option.map_eq_some_iff.mp h
    exact notMem_intercalate (by decide) (Bytes.newline_notMem_of_headerLines? hlines)

namespace Field

/-- The bytes of a field in a record, none if it lacks a text. -/
def shown (f : Field) (written : Instant) : Bytes := (f.render written).getD []

/-- The raw payload that a field shows. -/
def echoed : Field → Bytes
  | payload _ kept => kept
  | _ => []

/-- Only columns of raw payload echo any. -/
theorem echoed_eq_nil {f : Field} (h : ∀ direction, f.column ≠ .payload direction) :
    f.echoed = [] := by
  cases f with
  | payload direction kept => exact absurd rfl (h direction)
  | text | address | port | closer | status | capture | size | payloadTime | writtenTime
  | span => rfl

/-- A column that does not read payload does not miss it. -/
theorem observe_withoutPayload {f : Field} (h : f.column.readsPayload = false) (e : Event) :
    f.observe e.withoutPayload = f.observe e := by
  cases f with
  | capture | payload | size => cases h
  | text | writtenTime => rfl
  | closer c =>
    unfold observe Closer.observe Event.withoutPayload
    cases e.activity <;> rfl
  | address | port | status | payloadTime | span => simp [observe]

theorem observeAll_map_withoutPayload {f : Field} (h : f.column.readsPayload = false)
    (events : List Event) :
    f.observeAll (events.map Event.withoutPayload) = f.observeAll events := by
  induction events generalizing f with
  | nil => rfl
  | cons e rest ih =>
    have hnext : (f.observe e).column.readsPayload = false := by rwa [column_observe]
    have hfirst : f.observeAll ((e :: rest).map Event.withoutPayload) =
        (f.observe e.withoutPayload).observeAll (rest.map Event.withoutPayload) := rfl
    rw [hfirst, observe_withoutPayload h, ih hnext]
    rfl

/-- Captured lines have no newlines. -/
theorem newline_notMem_shown_capture (direction : Direction) (unit : CaptureUnit)
    (events : List Event) (written : Instant) :
    Bytes.newline ∉ ((start (.capture direction unit)).observeAll events).shown written := by
  rw [observeAll_capture]
  change Bytes.newline ∉ (Capture.ofStream unit (direction.stream events)).text
  rw [Capture.text_ofStream]
  cases hfound : unit.extract? ((direction.stream events).take Capture.limit) with
  | none => exact List.not_mem_nil
  | some found => exact CaptureUnit.newline_notMem_extract? hfound

/-- The newlines of a field are those that it has without any payload and those
of the raw payload that it shows. -/
theorem count_newline_observeAll (c : Column) (events : List Event) (written : Instant) :
    let f := (start c).observeAll events
    let withoutPayload := (start c).observeAll (events.map Event.withoutPayload)
    (f.shown written).count Bytes.newline =
      (withoutPayload.shown written).count Bytes.newline + f.echoed.count Bytes.newline := by
  intro f withoutPayload
  cases hreads : c.readsPayload with
  | false =>
    have hcolumn : (start c).column.readsPayload = false := by rwa [column_start]
    have hsame : withoutPayload = f := observeAll_map_withoutPayload hcolumn events
    have hechoed : f.echoed = [] := by
      apply echoed_eq_nil
      intro direction hpayload
      rw [column_observeAll, column_start] at hpayload
      rw [hpayload] at hreads
      cases hreads
    rw [hsame, hechoed, List.count_nil, Nat.add_zero]
  | true =>
    -- Of the columns that read payload, only the one of raw payload can have newlines.
    cases c with
    | capture direction unit =>
      have hf := newline_notMem_shown_capture direction unit events written
      have hwithout :=
        newline_notMem_shown_capture direction unit (events.map Event.withoutPayload) written
      have hechoed : f.echoed = [] := congrArg echoed (observeAll_capture direction unit events)
      rw [hechoed, List.count_eq_zero.mpr hf, List.count_eq_zero.mpr hwithout, List.count_nil]
    | payload direction =>
      have hf := observeAll_payload direction events
      have hwithout := observeAll_payload direction (events.map Event.withoutPayload)
      rw [Direction.stream_map_withoutPayload] at hwithout
      simp only [f, withoutPayload, hf, hwithout]
      exact (Nat.zero_add _).symm
    | size direction =>
      have hsize : ∀ n, ((Field.size direction n).shown written).count Bytes.newline = 0 :=
        fun n => List.count_eq_zero.mpr (Bytes.newline_notMem_digits n)
      simp only [f, withoutPayload, observeAll_size, hsize]
      rfl
    | text | address | port | closer | status | payloadTime | writtenTime | span => cases hreads

/-- A record shows its fields in order. -/
theorem renderAll_eq_flatMap_shown {fields : List Field} {written : Instant} {record : Bytes}
    (h : renderAll fields written = some record) :
    record = fields.flatMap fun f => f.shown written := by
  induction fields generalizing record with
  | nil =>
    cases h
    rfl
  | cons f rest ih =>
    obtain ⟨texts, htexts, rfl⟩ := Option.map_eq_some_iff.mp h
    obtain ⟨text, htext, later, hlater, rfl⟩ : ∃ text, f.render written = some text ∧
        ∃ later, rest.mapM (render · written) = some later ∧ text :: later = texts := by
      simpa [List.mapM_cons, Option.bind_eq_some_iff] using htexts
    have hrest : renderAll rest written = some later.flatten := by
      rw [renderAll, hlater]
      rfl
    rw [List.flatten_cons, ih hrest, List.flatMap_cons, shown, htext]
    rfl

end Field

end TcpJournal
