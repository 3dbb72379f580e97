import TcpJournal.Capture
import TcpJournal.Proofs.Lines.Completion

/-!
# Captures of segmented streams

A capture sees its stream in segments and looks at it again whenever one
arrives, until its unit is complete.  What it ends with depends on the stream
alone: it is the unit in the first `Capture.limit` bytes, and those bytes
themselves as long as the unit is not complete (`Capture.ofStream`).  The reason
is that a complete unit stays as it is when more bytes arrive.
-/

namespace TcpJournal

namespace CaptureUnit

@[simp]
theorem extract?_nil (unit : CaptureUnit) : unit.extract? [] = none := by
  cases unit <;> rfl

/-- A complete unit stays the same in every longer stream. -/
theorem extract?_append {unit : CaptureUnit} {bytes found : Bytes}
    (h : unit.extract? bytes = some found) (more : Bytes) :
    unit.extract? (bytes ++ more) = some found := by
  cases unit with
  | firstLine => exact Bytes.firstLine?_append h more
  | headers =>
    obtain ⟨lines, hlines, rfl⟩ := Option.map_eq_some_iff.mp h
    rw [extract?, Bytes.headerLines?_append hlines more]
    rfl

end CaptureUnit

namespace Capture

/-- The capture after segments in order. -/
def receiveAll (c : Capture) (segments : List Bytes) : Capture :=
  segments.foldl receive c

/-- The capture that has received a stream. -/
def ofStream (unit : CaptureUnit) (stream : Bytes) : Capture :=
  match unit.extract? (stream.take limit) with
  | some found => ⟨unit, [], some found⟩
  | none => ⟨unit, stream.take limit, none⟩

theorem ofStream_nil (unit : CaptureUnit) : ofStream unit [] = start unit := by
  simp [ofStream, start]

theorem captured_ofStream (unit : CaptureUnit) (stream : Bytes) :
    (ofStream unit stream).captured = unit.extract? (stream.take limit) := by
  unfold ofStream
  split
  · next h => exact h.symm
  · next h => exact h.symm

theorem text_ofStream (unit : CaptureUnit) (stream : Bytes) :
    (ofStream unit stream).text = (unit.extract? (stream.take limit)).getD [] := by
  rw [text, captured_ofStream]

/-- The bytes kept of a stream and of more data are those kept of both. -/
theorem bounded_take (stream data : Bytes) :
    bounded (stream.take limit) data = (stream ++ data).take limit := by
  rw [bounded, List.take_append, List.length_take]
  congr 2
  omega

/-- The first bytes of a stream are among the first bytes of a longer one. -/
theorem exists_take_append (stream data : Bytes) :
    ∃ more, (stream ++ data).take limit = stream.take limit ++ more :=
  ⟨_, (bounded_take stream data).symm⟩

/-- A unit that the first bytes complete is the same for every longer stream. -/
theorem extract?_take_append {unit : CaptureUnit} {stream found : Bytes}
    (h : unit.extract? (stream.take limit) = some found) (data : Bytes) :
    unit.extract? ((stream ++ data).take limit) = some found := by
  obtain ⟨more, hmore⟩ := exists_take_append stream data
  rw [hmore]
  exact CaptureUnit.extract?_append h more

theorem receive_ofStream (unit : CaptureUnit) (stream data : Bytes) :
    (ofStream unit stream).receive data = ofStream unit (stream ++ data) := by
  cases h : unit.extract? (stream.take limit) with
  | some found => simp only [ofStream, h, receive, extract?_take_append h data]
  | none =>
    -- Nothing has been captured, so the capture looks at all the bytes it keeps.
    have hkept : ofStream unit stream = ⟨unit, stream.take limit, none⟩ := by
      simp only [ofStream, h]
    rw [hkept]
    cases hlater : unit.extract? ((stream ++ data).take limit) with
    | none => simp only [receive, ofStream, bounded_take, hlater]
    | some found => simp only [receive, ofStream, bounded_take, hlater]

theorem receiveAll_ofStream (unit : CaptureUnit) (stream : Bytes) (segments : List Bytes) :
    (ofStream unit stream).receiveAll segments = ofStream unit (stream ++ segments.flatten) := by
  induction segments generalizing stream with
  | nil => simp [receiveAll]
  | cons data rest ih =>
    refine (congrArg (receiveAll · rest) (receive_ofStream unit stream data)).trans ?_
    rw [ih, List.flatten_cons, List.append_assoc]

/-- A capture does not show how its stream was cut into segments. -/
theorem receiveAll_start (unit : CaptureUnit) (segments : List Bytes) :
    (start unit).receiveAll segments = ofStream unit segments.flatten := by
  rw [← ofStream_nil, receiveAll_ofStream, List.nil_append]

theorem length_pending_ofStream (unit : CaptureUnit) (stream : Bytes) :
    (ofStream unit stream).pending.length ≤ limit := by
  unfold ofStream
  split
  · exact Nat.zero_le _
  · exact List.length_take_le _ _

/-- What is complete has nothing pending, and no segment changes it. -/
theorem receiveAll_of_isComplete {c : Capture} (h : c.isComplete = true)
    (segments : List Bytes) : c.receiveAll segments = c := by
  obtain ⟨found, hfound⟩ := Option.isSome_iff_exists.mp h
  induction segments with
  | nil => rfl
  | cons data rest ih =>
    have hfirst : c.receive data = c := by
      unfold receive
      rw [hfound]
    refine (congrArg (receiveAll · rest) hfirst).trans ?_
    exact ih

theorem pending_ofStream_of_isComplete {unit : CaptureUnit} {stream : Bytes}
    (h : (ofStream unit stream).isComplete = true) : (ofStream unit stream).pending = [] := by
  rw [isComplete, captured_ofStream] at h
  obtain ⟨found, hfound⟩ := Option.isSome_iff_exists.mp h
  simp only [ofStream, hfound]

/-- A capture is complete exactly if the first bytes of its stream hold the whole
unit, and then shows just that.  Meanwhile it never keeps more than these first bytes,
and from its completion on it keeps none and stays as it is.  So all ways to cut a
stream into segments give the same capture. -/
theorem capture_of_segments (unit : CaptureUnit) (segments : List Bytes) :
    let whole? : Option Bytes :=
      let kept := segments.flatten.take 8192
      match unit with
      | .firstLine => Bytes.firstLine? kept
      | .headers => (Bytes.headerLines? kept).map (Bytes.ofString "; ").intercalate
    let c := (start unit).receiveAll segments
    c.isComplete = whole?.isSome ∧ c.text = whole?.getD [] ∧
      (∀ past later, segments = past ++ later →
        let earlier := (start unit).receiveAll past
        earlier.pending.length ≤ 8192 ∧
          (earlier.isComplete = true → earlier.pending = [] ∧ c = earlier)) ∧
      ∀ others : List Bytes, others.flatten = segments.flatten →
        (start unit).receiveAll others = c := by
  intro whole? c
  have hwhole : unit.extract? (segments.flatten.take limit) = whole? := by
    cases unit <;> rfl
  have hc : c = ofStream unit segments.flatten := receiveAll_start unit segments
  refine ⟨?_, ?_, ?_, ?_⟩
  · rw [hc, isComplete, captured_ofStream, hwhole]
  · rw [hc, text_ofStream, hwhole]
  · rintro past later rfl earlier
    have hearlier : earlier = ofStream unit past.flatten := receiveAll_start unit past
    constructor
    · rw [hearlier]
      exact length_pending_ofStream unit _
    · intro hcomplete
      have hstays : c = earlier.receiveAll later := List.foldl_append
      refine ⟨?_, hstays.trans (receiveAll_of_isComplete hcomplete later)⟩
      rw [hearlier] at hcomplete ⊢
      exact pending_ofStream_of_isComplete hcomplete
  · intro others hothers
    rw [receiveAll_start, hothers, hc]

end Capture

end TcpJournal
