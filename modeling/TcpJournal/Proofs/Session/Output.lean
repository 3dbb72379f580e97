import TcpJournal.Proofs.Delivery.Writing
import TcpJournal.Proofs.Session.Records

/-!
# The output of a session

A session that prints to a writer which never fails leaves there one line for
each close: the record of the close and a newline.  Nothing else is written,
and the cuts between the pieces that the writer takes do not show.
-/

namespace TcpJournal

/-- What a call adds to a stream: its record and a newline, or nothing if the
record lacks a text. -/
def PrintCall.line (call : PrintCall) : Bytes :=
  match Field.record call.fields call.written with
  | some record => record ++ [Bytes.newline]
  | none => []

namespace Session

/-- Every call comes from a close. -/
theorem exists_close_of_mem_calls {program : Program} {events : List Event} {call : PrintCall}
    (h : call ∈ calls program events) :
    ∃ past e, past ++ [e] <+: events ∧ e.kind = .closed ∧
      call = ⟨(Flow.closing program past e).fields, e.time⟩ := by
  induction events using List.reverseRecOn with
  | nil => exact absurd h List.not_mem_nil
  | append_singleton past e ih =>
    have hpast : call ∈ calls program past → ∃ before close, before ++ [close] <+: past ++ [e] ∧
        close.kind = .closed ∧ call = ⟨(Flow.closing program before close).fields, close.time⟩ := by
      intro hmem
      obtain ⟨before, close, hprefix, hclose⟩ := ih hmem
      exact ⟨before, close, hprefix.trans (List.prefix_append _ _), hclose⟩
    by_cases hkind : e.kind = .closed
    · rw [calls_concat_of_closed program past hkind, List.mem_append, List.mem_singleton] at h
      rcases h with hmem | rfl
      · exact hpast hmem
      · exact ⟨past, e, List.prefix_rfl, hkind, rfl⟩
    · rw [calls_concat_of_not_closed program past hkind] at h
      exact hpast h

/-- What a session adds to a stream. -/
def output (program : Program) (events : List Event) : Bytes :=
  (calls program events).flatMap PrintCall.line

theorem output_concat_of_closed (program : Program) (past : List Event) {e : Event}
    (h : e.kind = .closed) :
    output program (past ++ [e]) =
      output program past ++ PrintCall.line ⟨(Flow.closing program past e).fields, e.time⟩ := by
  rw [output, calls_concat_of_closed program past h, List.flatMap_append, output,
    List.flatMap_singleton]

theorem output_concat_of_not_closed (program : Program) (past : List Event) {e : Event}
    (h : e.kind ≠ .closed) :
    output program (past ++ [e]) = output program past := by
  rw [output, calls_concat_of_not_closed program past h, output]

end Session

namespace Writer.Reliable

variable {ω : Type} {writer : Writer ω} {good : ω → Prop} {taken : ω → Bytes}

/-- A call adds its line to what has been taken. -/
theorem taken_print (h : writer.Reliable good taken) {state : ω} (hstate : good state)
    (call : PrintCall) :
    let later := (writer.printer.print call.fields call.written state).2
    good later ∧ taken later = taken state ++ call.line := by
  intro later
  cases hrecord : Field.record call.fields call.written with
  | none =>
    have hlater : later = state := by
      simp only [later, printer, Printer.ofRecord, hrecord]
    have hline : call.line = [] := by
      simp only [PrintCall.line, hrecord]
    rw [hlater, hline, List.append_nil]
    exact ⟨hstate, rfl⟩
  | some record =>
    obtain ⟨next, hprint, hnext, htaken⟩ := h.print_of_record hstate hrecord
    have hlater : later = next := congrArg Prod.snd hprint
    have hline : call.line = record ++ [Bytes.newline] := by
      simp only [PrintCall.line, hrecord]
    rw [hlater, hline]
    exact ⟨hnext, htaken⟩

/-- Calls in order add their lines in order. -/
theorem taken_stateAfter (h : writer.Reliable good taken) {state : ω} (hstate : good state)
    (calls : List PrintCall) :
    let later := writer.printer.stateAfter state calls
    good later ∧ taken later = taken state ++ calls.flatMap PrintCall.line := by
  induction calls using List.reverseRecOn with
  | nil => exact ⟨hstate, (List.append_nil _).symm⟩
  | append_singleton past call ih =>
    obtain ⟨hpast, htaken⟩ := ih
    obtain ⟨hlater, hline⟩ := h.taken_print hpast call
    rw [Printer.stateAfter_concat, List.flatMap_append, List.flatMap_singleton]
    exact ⟨hlater, by rw [hline, htaken, List.append_assoc]⟩

/-- A writer that never fails takes the output of the session. -/
theorem taken_handleAll (h : writer.Reliable good taken) {state : ω} (hstate : good state)
    (program : Program) (events : List Event) :
    taken ((Session.start program state).handleAll writer.printer events).printer =
      taken state ++ Session.output program events := by
  rw [Session.printer_handleAll]
  exact (h.taken_stateAfter hstate _).2

end Writer.Reliable

end TcpJournal
