import TcpJournal.Proofs.Session.Delivered

/-!
# Writers that fail

A writer may fail at any point of a record and work again later.  As long as it
reports what it takes, a failed record leaves a part of its line behind, from the
front, and a delivered one leaves its line in full (`Writer.Honest.print`).

A writer with room for a limited number of bytes takes what still fits.  So it
delivers a record exactly if the line fits, and a line that does not fit fills
the room that is left (`Writer.Capped.print`).
-/

namespace TcpJournal

namespace Writer

variable {ω : Type} {writer : Writer ω} {taken : ω → Bytes}

/-- A record with a text is delivered exactly if its line is, with the newline. -/
theorem print_of_delivered (writer : Writer ω) {call : PrintCall} {record : Bytes}
    (hrecord : call.delivered? = some record) (state : ω) :
    let printed := writer.printer.print call.fields call.written state
    printed.2 = (writer.deliver call.line state).2 ∧
      (printed.1 = .delivered ↔ (writer.deliver call.line state).1 = .ok ()) ∧
      printed.1 ≠ .abandoned := by
  intro printed
  have hline := PrintCall.line_of_delivered hrecord
  rw [PrintCall.delivered?] at hrecord
  simp only [printed, printer, Printer.ofRecord, hrecord, hline]
  rcases writer.deliver (record ++ [Bytes.newline]) state with ⟨_ | _, later⟩
  · simp
  · simp

/-- A record without a text leaves the writer alone. -/
theorem print_of_not_delivered (writer : Writer ω) {call : PrintCall}
    (hrecord : call.delivered? = none) (state : ω) :
    writer.printer.print call.fields call.written state = (.abandoned, state) := by
  rw [PrintCall.delivered?] at hrecord
  simp only [printer, Printer.ofRecord, hrecord]

/-! ## Writers that report what they take -/

/-- The writer reports what it takes: the front of the offered bytes, as many as
it says, and nothing in a write that fails or in a flush.  When it fails is left
open.  The bytes it has taken so far are told by `taken`. -/
structure Honest (writer : Writer ω) (taken : ω → Bytes) : Prop where
  write_ok : ∀ {bytes state n later}, writer.write bytes state = (.ok n, later) →
    taken later = taken state ++ bytes.take n
  write_error : ∀ {bytes state e later}, writer.write bytes state = (.error e, later) →
    taken later = taken state
  flush : ∀ state, taken (writer.flush state).2 = taken state

namespace Honest

/-- A front part of the bytes is taken, and all of them unless the writer fails. -/
theorem writeAll (h : writer.Honest taken) (bytes : Bytes) (state : ω) :
    ∃ left, left <+: bytes ∧ taken (writer.writeAll bytes state).2 = taken state ++ left ∧
      ((writer.writeAll bytes state).1 = .ok () → left = bytes) := by
  fun_induction Writer.writeAll writer bytes state with
  | case1 state => exact ⟨[], List.prefix_rfl, (List.append_nil _).symm, fun _ => rfl⟩
  | case2 bytes state hbytes e later hwrite =>
    refine ⟨[], List.nil_prefix, ?_, fun hok => by cases hok⟩
    rw [h.write_error hwrite, List.append_nil]
  | case3 bytes state hbytes later hwrite =>
    refine ⟨[], List.nil_prefix, ?_, fun hok => by cases hok⟩
    rw [h.write_ok hwrite, List.take_zero]
  | case4 bytes state hbytes n middle hwrite ih =>
    obtain ⟨left, hleft, htaken, hok⟩ := ih
    refine ⟨bytes.take (n + 1) ++ left, ?_, ?_, ?_⟩
    · have hparts := (List.prefix_append_right_inj (bytes.take (n + 1))).mpr hleft
      rwa [List.take_append_drop] at hparts
    · rw [htaken, h.write_ok hwrite, List.append_assoc]
    · intro hall
      rw [hok hall, List.take_append_drop]

theorem deliver (h : writer.Honest taken) (bytes : Bytes) (state : ω) :
    ∃ left, left <+: bytes ∧ taken (writer.deliver bytes state).2 = taken state ++ left ∧
      ((writer.deliver bytes state).1 = .ok () → left = bytes) := by
  obtain ⟨left, hleft, htaken, hok⟩ := h.writeAll bytes state
  rcases hwrite : writer.writeAll bytes state with ⟨e | _, middle⟩
  · rw [hwrite] at htaken
    rw [deliver_of_error hwrite]
    exact ⟨left, hleft, htaken, fun hok => by cases hok⟩
  · rw [hwrite] at htaken hok
    rw [deliver_of_ok hwrite]
    exact ⟨left, hleft, (h.flush middle).trans htaken, fun _ => hok rfl⟩

/-- A call leaves a front part of its line, and all of it if the record is
delivered. -/
theorem print (h : writer.Honest taken) (call : PrintCall) (state : ω) :
    let printed := writer.printer.print call.fields call.written state
    ∃ left, left <+: call.line ∧ taken printed.2 = taken state ++ left ∧
      (printed.1 = .delivered → left = call.line ∧ ∃ record, call.delivered? = some record) ∧
      (printed.1 = .abandoned → left = []) := by
  intro printed
  cases hrecord : call.delivered? with
  | none =>
    have hprinted : printed = (.abandoned, state) := writer.print_of_not_delivered hrecord state
    rw [hprinted]
    refine ⟨[], List.nil_prefix, (List.append_nil _).symm, fun hdelivered => ?_, fun _ => rfl⟩
    cases hdelivered
  | some record =>
    obtain ⟨left, hleft, htaken, hok⟩ := h.deliver call.line state
    obtain ⟨hlater, hdelivered, hsettled⟩ := writer.print_of_delivered hrecord state
    refine ⟨left, hleft, ?_, ?_, fun hno => absurd hno hsettled⟩
    · rw [hlater, htaken]
    · intro hprinted
      exact ⟨hok (hdelivered.mp hprinted), record, rfl⟩

end Honest

/-! ## Writers with limited room -/

/-- From its good states on the writer takes bytes as long as it has room, in pieces
of any size, and can be flushed.  Without room a write fails or takes nothing. -/
structure Capped (writer : Writer ω) (good : ω → Prop) (taken : ω → Bytes) (room : ω → Nat) :
    Prop where
  /-- Some of the offered bytes are taken, no more than there is room for. -/
  write : ∀ bytes state, bytes ≠ [] → good state → 0 < room state →
    ∃ n later, writer.write bytes state = (.ok (n + 1), later) ∧ good later ∧
      n + 1 ≤ bytes.length ∧ taken later = taken state ++ bytes.take (n + 1) ∧
      room later + (n + 1) = room state
  /-- A write without room is refused and changes nothing that matters. -/
  refuse : ∀ bytes state, good state → room state = 0 →
    let (answer, later) := writer.write bytes state
    (∀ n, answer ≠ .ok (n + 1)) ∧ good later ∧ taken later = taken state ∧ room later = 0
  /-- A flush takes nothing. -/
  flush : ∀ state, good state →
    ∃ later, writer.flush state = (.ok (), later) ∧ good later ∧ taken later = taken state ∧
      room later = room state

namespace Capped

variable {good : ω → Prop} {room : ω → Nat}

/-- A write that takes nothing shows that there is no room. -/
theorem room_eq_zero (h : writer.Capped good taken room) {bytes : Bytes} {state later : ω}
    {answer : Except WriteError Nat} (hbytes : bytes ≠ []) (hstate : good state)
    (hwrite : writer.write bytes state = (answer, later)) (hanswer : ∀ n, answer ≠ .ok (n + 1)) :
    room state = 0 ∧ good later ∧ taken later = taken state ∧ room later = 0 := by
  rcases Nat.eq_zero_or_pos (room state) with hzero | hpos
  · have hrefused := h.refuse bytes state hstate hzero
    rw [hwrite] at hrefused
    exact ⟨hzero, hrefused.2⟩
  · obtain ⟨n, _, hok, -⟩ := h.write bytes state hbytes hstate hpos
    rw [hwrite] at hok
    exact absurd (congrArg Prod.fst hok) (hanswer n)

/-- The bytes that fit are taken, and the write succeeds exactly if all fit. -/
theorem writeAll (h : writer.Capped good taken room) (bytes : Bytes) {state : ω}
    (hstate : good state) :
    let (result, later) := writer.writeAll bytes state
    good later ∧ taken later = taken state ++ bytes.take (room state) ∧
      room later = room state - bytes.length ∧ (result = .ok () ↔ bytes.length ≤ room state) := by
  fun_induction Writer.writeAll writer bytes state with
  | case1 state => simp [hstate]
  | case2 bytes state hbytes e later hwrite =>
    obtain ⟨hzero, hlater, htaken, hroom⟩ :=
      h.room_eq_zero hbytes hstate hwrite fun n hno => by cases hno
    simp [hlater, htaken, hroom, hzero, hbytes]
  | case3 bytes state hbytes later hwrite =>
    obtain ⟨hzero, hlater, htaken, hroom⟩ :=
      h.room_eq_zero hbytes hstate hwrite fun n hno => by cases hno
    simp [hlater, htaken, hroom, hzero, hbytes]
  | case4 bytes state hbytes n middle hwrite ih =>
    have hpos : 0 < room state := by
      by_contra hzero
      have hrefused := h.refuse bytes state hstate (Nat.eq_zero_of_not_pos hzero)
      rw [hwrite] at hrefused
      exact hrefused.1 n rfl
    obtain ⟨_, _, hok, hmiddle, hlength, htaken, hroom⟩ := h.write bytes state hbytes hstate hpos
    rw [hwrite] at hok
    cases hok
    obtain ⟨hlater, hrest, hleft, hall⟩ := ih hmiddle
    have hparts : room state = n + 1 + room middle := by omega
    refine ⟨hlater, ?_, ?_, ?_⟩
    · rw [hrest, htaken, List.append_assoc, ← List.take_add, hparts]
    · rw [hleft, List.length_drop]
      omega
    · rw [hall, List.length_drop]
      omega

theorem deliver (h : writer.Capped good taken room) (bytes : Bytes) {state : ω}
    (hstate : good state) :
    let (result, later) := writer.deliver bytes state
    good later ∧ taken later = taken state ++ bytes.take (room state) ∧
      room later = room state - bytes.length ∧ (result = .ok () ↔ bytes.length ≤ room state) := by
  obtain ⟨hmiddle, htaken, hroom, hok⟩ := h.writeAll bytes hstate
  rcases hwrite : writer.writeAll bytes state with ⟨e | _, middle⟩
  · rw [hwrite] at hmiddle htaken hroom hok
    rw [deliver_of_error hwrite]
    exact ⟨hmiddle, htaken, hroom, hok⟩
  · rw [hwrite] at hmiddle htaken hroom hok
    obtain ⟨later, hflush, hlater, hsame, hsameRoom⟩ := h.flush middle hmiddle
    rw [deliver_of_ok hwrite, hflush]
    exact ⟨hlater, hsame.trans htaken, hsameRoom.trans hroom, hok⟩

/-- A call fills the room with its line, and the record is delivered exactly if the
line fits. -/
theorem print (h : writer.Capped good taken room) (call : PrintCall) {state : ω}
    (hstate : good state) :
    let printed := writer.printer.print call.fields call.written state
    good printed.2 ∧ taken printed.2 = taken state ++ call.line.take (room state) ∧
      room printed.2 = room state - call.line.length ∧
      (call.delivered? ≠ none → (printed.1 = .delivered ↔ call.line.length ≤ room state)) := by
  intro printed
  cases hrecord : call.delivered? with
  | none =>
    have hprinted : printed = (.abandoned, state) := writer.print_of_not_delivered hrecord state
    rw [hprinted, PrintCall.line_of_not_delivered hrecord]
    simp [hstate]
  | some record =>
    obtain ⟨hlater, htaken, hroom, hok⟩ := h.deliver call.line hstate
    obtain ⟨hsame, hdelivered, -⟩ := writer.print_of_delivered hrecord state
    refine ⟨?_, ?_, ?_, fun _ => hdelivered.trans hok⟩
    · rwa [hsame]
    · rwa [hsame]
    · rwa [hsame]

end Capped

end Writer

/-- A stream with a limit has room until it has taken that many bytes. -/
theorem Stream.capped_writer :
    Stream.writer.Capped (fun stream => stream.room ≠ none ∧ stream.flushes = true)
      Stream.written (fun stream => stream.room.getD 0) where
  write bytes stream hbytes := by
    rintro ⟨hlimited, hflushes⟩ hpos
    obtain ⟨room, hroom⟩ := Option.ne_none_iff_exists'.mp hlimited
    rw [hroom, Option.getD_some] at hpos
    obtain ⟨k, rfl⟩ := Nat.exists_eq_add_of_lt hpos
    rw [Nat.zero_add] at hroom
    have hlength := List.length_pos_iff.mpr hbytes
    obtain ⟨n, hn⟩ : ∃ n, (bytes.take (k + 1)).length = n + 1 :=
      Nat.exists_eq_succ_of_ne_zero (by rw [List.length_take]; omega)
    have hfits : n + 1 = min (k + 1) bytes.length := by rw [← hn, List.length_take]
    refine ⟨n, (Stream.write bytes stream).2, ?_, ⟨?_, ?_⟩, ?_, ?_, ?_⟩
    · simp [writer, Stream.write, hroom, hn]
    · simp [Stream.write, hroom]
    · simp [Stream.write, hroom, hflushes]
    · omega
    · simp [Stream.write, hroom, hfits, List.take_eq_take_min]
    · simp [Stream.write, hroom]
      omega
  refuse bytes stream := by
    rintro ⟨hlimited, hflushes⟩ hzero
    obtain ⟨room, hroom⟩ := Option.ne_none_iff_exists'.mp hlimited
    obtain rfl : room = 0 := by simpa [hroom] using hzero
    have hwrite : writer.write bytes stream =
        (if stream.stalls then .ok 0 else .error .diskFull, stream) := by
      simp [writer, Stream.write, hroom]
    rw [hwrite]
    refine ⟨fun n => ?_, ⟨hlimited, hflushes⟩, rfl, hzero⟩
    cases stream.stalls <;> simp
  flush stream := by
    rintro ⟨hlimited, hflushes⟩
    exact ⟨stream, by simp [writer, Stream.flush, hflushes], ⟨hlimited, hflushes⟩, rfl, rfl⟩

end TcpJournal
