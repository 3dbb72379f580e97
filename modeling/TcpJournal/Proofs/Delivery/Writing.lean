import TcpJournal.Delivery.Stream

/-!
# Writers that never fail

A writer may take its bytes in pieces.  One that takes some of whatever it is
offered and can always be flushed receives every record in full, with its
newline, however it cuts the pieces (`Writer.Reliable.print_of_record`).
-/

namespace TcpJournal

namespace Writer

variable {ω : Type}

/-- A failed write is not flushed. -/
theorem deliver_of_error {writer : Writer ω} {bytes : Bytes} {state later : ω} {e : WriteError}
    (h : writer.writeAll bytes state = (.error e, later)) :
    writer.deliver bytes state = (.error e, later) := by
  rw [deliver, h]

/-- What has been written in full is flushed. -/
theorem deliver_of_ok {writer : Writer ω} {bytes : Bytes} {state later : ω}
    (h : writer.writeAll bytes state = (.ok (), later)) :
    writer.deliver bytes state = writer.flush later := by
  rw [deliver, h]

/-- From its good states on a writer never fails, and `taken` tells the bytes it
has taken so far. -/
structure Reliable (writer : Writer ω) (good : ω → Prop) (taken : ω → Bytes) : Prop where
  /-- Some of the offered bytes are taken. -/
  write : ∀ bytes state, bytes ≠ [] → good state →
    ∃ n later, writer.write bytes state = (.ok (n + 1), later) ∧ good later ∧
      taken later = taken state ++ bytes.take (n + 1)
  /-- A flush takes nothing. -/
  flush : ∀ state, good state →
    ∃ later, writer.flush state = (.ok (), later) ∧ good later ∧ taken later = taken state

namespace Reliable

variable {writer : Writer ω} {good : ω → Prop} {taken : ω → Bytes}

/-- All bytes are written, in as many pieces as it takes. -/
theorem writeAll (h : writer.Reliable good taken) (bytes : Bytes) {state : ω}
    (hstate : good state) :
    ∃ later, writer.writeAll bytes state = (.ok (), later) ∧ good later ∧
      taken later = taken state ++ bytes := by
  fun_induction Writer.writeAll writer bytes state with
  | case1 state => exact ⟨state, rfl, hstate, (List.append_nil _).symm⟩
  | case2 bytes state hbytes e later hwrite =>
    obtain ⟨n, _, hok, -⟩ := h.write bytes state hbytes hstate
    rw [hwrite] at hok
    cases hok
  | case3 bytes state hbytes later hwrite =>
    obtain ⟨n, _, hok, -⟩ := h.write bytes state hbytes hstate
    rw [hwrite] at hok
    cases hok
  | case4 bytes state hbytes n middle hwrite ih =>
    obtain ⟨_, _, hok, hmiddle, htaken⟩ := h.write bytes state hbytes hstate
    rw [hwrite] at hok
    cases hok
    obtain ⟨later, hall, hlater, hrest⟩ := ih hmiddle
    refine ⟨later, hall, hlater, ?_⟩
    rw [hrest, htaken, List.append_assoc, List.take_append_drop]

/-- Delivered bytes are taken in full. -/
theorem deliver (h : writer.Reliable good taken) (bytes : Bytes) {state : ω}
    (hstate : good state) :
    ∃ later, writer.deliver bytes state = (.ok (), later) ∧ good later ∧
      taken later = taken state ++ bytes := by
  obtain ⟨middle, hwrite, hmiddle, htaken⟩ := h.writeAll bytes hstate
  obtain ⟨later, hflush, hlater, hsame⟩ := h.flush middle hmiddle
  exact ⟨later, (deliver_of_ok hwrite).trans hflush, hlater, hsame.trans htaken⟩

/-- A record is taken in full, and a newline with it. -/
theorem print_of_record (h : writer.Reliable good taken) {state : ω} (hstate : good state)
    {fields : List Field} {written : Instant} {record : Bytes}
    (hrecord : Field.record fields written = some record) :
    ∃ later, writer.printer.print fields written state = (.delivered, later) ∧ good later ∧
      taken later = taken state ++ (record ++ [Bytes.newline]) := by
  obtain ⟨later, hdeliver, hlater, htaken⟩ := h.deliver (record ++ [Bytes.newline]) hstate
  refine ⟨later, ?_, hlater, htaken⟩
  simp only [printer, Printer.ofRecord, hrecord, hdeliver]

end Reliable

end Writer

/-- A stream without a limit takes everything. -/
theorem Stream.reliable_writer :
    Stream.writer.Reliable (fun stream => stream.room = none ∧ stream.flushes = true)
      Stream.written where
  write bytes stream hbytes := by
    rintro ⟨hroom, hflushes⟩
    obtain ⟨n, hn⟩ := Nat.exists_eq_succ_of_ne_zero (mt List.length_eq_zero_iff.mp hbytes)
    refine ⟨n, { stream with written := stream.written ++ bytes }, ?_, ⟨hroom, hflushes⟩, ?_⟩
    · simp [writer, Stream.write, hroom, hn]
    · rw [List.take_of_length_le (Nat.le_of_eq hn)]
  flush stream := by
    rintro ⟨hroom, hflushes⟩
    exact ⟨stream, by simp [writer, Stream.flush, hflushes], ⟨hroom, hflushes⟩, rfl⟩

end TcpJournal
