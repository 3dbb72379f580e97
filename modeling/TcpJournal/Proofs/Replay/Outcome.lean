import TcpJournal.Proofs.Replay.Schedules
import TcpJournal.Proofs.Session.Records
import TcpJournal.Replay.Outcome

/-!
# The outcome of a replay

A replay whose configuration, format or input is wrong ends before a record is
delivered.  Any other replay delivers what its session delivers for the events
before the first line of the trace that is not readable, and its status tells
whether there is such a line.

The main statement (`Replay.Accountable`) holds for every command line and every
trace, for every order in which the reader and the handler take turns, and for
every platform that runs commands, whichever of them fail.
-/

namespace TcpJournal

theorem Writer.settles_printer (writer : Writer ω) : writer.printer.Settles :=
  Printer.settles_ofRecord _

theorem Runner.settles_printer (runner : Runner ρ) (invocation : Invocation) :
    (runner.printer invocation).Settles :=
  Printer.settles_ofRecord _

theorem Sink.settles_printer (runner : Runner ρ) : (printer runner).Settles := by
  intro fields written sink hrender
  cases sink with
  | stream s => exact Stream.writer.settles_printer fields written s hrender
  | command invocation state =>
    exact runner.settles_printer invocation fields written state hrender

namespace Session

/-- A session whose columns all have a text is not interrupted. -/
theorem completes_start {printer : Printer σ} (hprinter : printer.Settles) {program : Program}
    (hprogram : program.Renders) (state : σ) : (start program state).Completes printer := by
  intro past e
  have hobserved := observed_handleAll printer program state past e
  unfold step
  by_cases h : e.kind = .closed
  · rw [OpenFlows.receive_of_closed h, hobserved]
    have hrender : Field.renderAll (Flow.closing program past e).fields e.time ≠ none :=
      Flow.render_ne_none_of_renders hprogram e.id (e.id.sinceClose past ++ [e]) e.time
    simpa [Step.completed] using
      hprinter _ _ ((start program state).handleAll printer past).printer hrender
  · rw [OpenFlows.receive_of_not_closed h]
    rfl

end Session

namespace Replay

variable (platform : CommandPlatform ρ) {s left : Surroundings} {a : Arguments} {config : Config}
  {program : Program}

theorem prepare_of_configuration_error {e : ReplayError} (h : configuration s a = .error e) :
    prepare platform s a = .error e := by
  rw [prepare, h]
  rfl

theorem prepare_of_compile_error {cause : CompileError}
    (hconfig : configuration s a = .ok (config, left))
    (hcompile : Format.compile .standard config.format = .error cause) :
    prepare platform s a = .error (.start (.format cause)) := by
  simp only [prepare, hconfig, bind, Except.bind, hcompile]

theorem prepare_of_compile
    (hconfig : configuration s a = .ok (config, left))
    (hcompile : Format.compile .standard config.format = .ok program) :
    prepare platform s a =
      (input left a).map fun stream =>
        (.start program (sink platform config.destination), stream) := by
  simp only [prepare, hconfig, bind, Except.bind, hcompile]
  cases input left a <;> rfl

section Run

variable {platform} (hwords : Arguments.parse? s.words = some a) (hlist : a.listKeywords = false)

include hwords hlist

theorem runOn_of_prepare_error {e : ReplayError} (h : prepare platform s a = .error e) :
    runOn platform s = ⟨1, [], some e⟩ := by
  simp [runOn, hwords, hlist, h]

theorem runOn_of_unreadable {session : Session (Sink ρ)} {e : FileError}
    (h : prepare platform s a = .ok (session, .error e)) :
    runOn platform s = outcome platform session (.inputFailed (.unreadable e)) := by
  simp [runOn, hwords, hlist, h]

theorem runOn_of_readable {session : Session (Sink ρ)} {stream : Bytes}
    (h : prepare platform s a = .ok (session, .ok stream)) :
    runOn platform s =
      outcome platform
        (Pipeline.sequential (Sink.printer platform.toRunner) session stream).1
        (Pipeline.sequential (Sink.printer platform.toRunner) session stream).2 := by
  simp [runOn, hwords, hlist, h]

end Run

theorem output_sink (destination : Destination) :
    platform.output (sink platform destination) = [] := by
  cases destination with
  | standardOutput => rfl
  | command invocation => exact platform.written_fresh

/-- Nothing has been delivered before the first event. -/
theorem outcome_start (program : Program) (destination : Destination) (cause : ReadError) :
    outcome platform (.start program (sink platform destination)) (.inputFailed cause) =
      ⟨1, [], some (.trace cause)⟩ := by
  rw [← output_sink platform destination]
  rfl

theorem status_outcome_ofError? (session : Session (Sink ρ)) (error? : Option ReadError) :
    (outcome platform session (.ofError? error?)).status = if error? = none then 0 else 1 := by
  cases error? <;> rfl

/-- What holds of a replay of a command line that asks for one. -/
structure Accountable (platform : CommandPlatform ρ) (s : Surroundings) (a : Arguments) :
    Prop where
  /-- Without a configuration nothing is delivered. -/
  configuration_refused : ∀ e, configuration s a = .error e →
    runOn platform s = ⟨1, [], some e⟩
  /-- Nor is anything for a format that does not compile. -/
  format_refused : ∀ config left cause, configuration s a = .ok (config, left) →
    Format.compile .standard config.format = .error cause →
      runOn platform s = ⟨1, [], some (.start (.format cause))⟩
  /-- Nor for an input that cannot be opened, or not be read. -/
  input_refused : ∀ config left program, configuration s a = .ok (config, left) →
    Format.compile .standard config.format = .ok program →
      (∀ e, input left a = .error e → runOn platform s = ⟨1, [], some e⟩) ∧
      ∀ e, input left a = .ok (.error e) →
        runOn platform s = ⟨1, [], some (.trace (.unreadable e))⟩
  /-- A trace is replayed as a session handles its events up to the first
  error, whatever turns the reader and the handler take, and the status tells
  whether there is an error. -/
  replayed : ∀ config left program stream, configuration s a = .ok (config, left) →
    Format.compile .standard config.format = .ok program → program.Renders →
      input left a = .ok (.ok stream) →
        let printer := Sink.printer platform.toRunner
        let session := Session.start program (sink platform config.destination)
        Pipeline.Faithful printer stream session ∧
        runOn platform s =
          outcome platform (session.handleAll printer (Trace.events stream))
            (.ofError? (Trace.error? stream)) ∧
        (∀ schedule finished,
          ((Pipeline.start stream session).run printer schedule).finished = some finished →
            runOn platform s =
              outcome platform ((Pipeline.start stream session).run printer schedule).session
                finished) ∧
        (runOn platform s).status = if Trace.error? stream = none then 0 else 1
  /-- A trace has an error exactly if one of its lines is not readable. -/
  error?_eq_none_iff : ∀ stream, Trace.error? stream = none ↔
    ∀ line ∈ Trace.physicalLines stream, Trace.isReadable line = true
  /-- The error is the one of the first such line, under its number in the
  stream, and the events are those of the lines before. -/
  error?_eq_some : ∀ stream cause, Trace.error? stream = some cause →
    ∃ before line after, Trace.physicalLines stream = before ++ line :: after ∧
      (∀ earlier ∈ before, Trace.isReadable earlier = true) ∧
      Trace.isReadable line = false ∧
      Trace.events stream = before.filterMap Trace.lineEvent? ∧
      cause = Trace.lineError (before.length + 1) line ∧
      ∃ earlier later, stream = earlier ++ (line ++ later) ∧
        earlier.count Bytes.newline = before.length

theorem accountable_run (hwords : Arguments.parse? s.words = some a)
    (hlist : a.listKeywords = false) : Accountable platform s a where
  configuration_refused e hconfig :=
    runOn_of_prepare_error hwords hlist (prepare_of_configuration_error platform hconfig)
  format_refused config left cause hconfig hcompile :=
    runOn_of_prepare_error hwords hlist (prepare_of_compile_error platform hconfig hcompile)
  input_refused config left program hconfig hcompile := by
    have hprepare := prepare_of_compile platform hconfig hcompile
    refine ⟨fun e hinput => ?_, fun e hinput => ?_⟩
    · rw [hinput] at hprepare
      exact runOn_of_prepare_error hwords hlist hprepare
    · rw [hinput] at hprepare
      rw [runOn_of_unreadable hwords hlist hprepare, outcome_start]
  replayed config left program stream hconfig hcompile hprogram hinput := by
    intro printer session
    have hprepare := prepare_of_compile platform hconfig hcompile
    rw [hinput] at hprepare
    have hfaithful : Pipeline.Faithful printer stream session :=
      Pipeline.faithful_of_completes
        (Session.completes_start (Sink.settles_printer platform.toRunner) hprogram _) stream
    have hrun : runOn platform s =
        outcome platform (session.handleAll printer (Trace.events stream))
          (.ofError? (Trace.error? stream)) := by
      rw [runOn_of_readable hwords hlist hprepare, hfaithful.sequential_eq]
    refine ⟨hfaithful, hrun, fun schedule finished hfinished => ?_, ?_⟩
    · obtain ⟨hhandled, rfl⟩ := hfaithful.ended schedule finished hfinished
      rw [hrun, hfaithful.session_eq, hhandled]
    · rw [hrun, status_outcome_ofError?]
  error?_eq_none_iff stream := Trace.errorIn?_eq_none_iff
  error?_eq_some stream cause herror := by
    obtain ⟨before, line, after, hlines, hbefore, hline, hevents, hcause⟩ :=
      Trace.exists_line_of_errorIn? herror
    rw [Nat.zero_add] at hcause
    exact ⟨before, line, after, hlines, hbefore, hline, hevents, hcause,
      Trace.exists_count_newline_of_physicalLines hlines⟩

/-- The comment and the empty line count, and the line behind the one that is no
event is not replayed. -/
theorem run_of_trace_with_bad_line :
    let id : Connection := ⟨.v4 0x0A000001 9, .v4 0x0A000002 80⟩
    let close := "[\"close\",\"10.0.0.1:9\",\"10.0.0.2:80\",\"1970-01-01T00:00:00Z\"]\n"
    let stream := Bytes.ofString ("# one\n\n" ++ close ++ "no event\n" ++ close)
    let s : Surroundings := ⟨["-f", "%status"], none, fun _ => .error .notFound, stream⟩
    Trace.events stream = [⟨id, .epoch, .closed []⟩] ∧
      runOn CallRecorder.platform s =
        ⟨1, Bytes.ofString "unknown\n", some (.trace (.badLine 4))⟩ := by
  intro id close stream s
  have hevents : Trace.events stream = [⟨id, .epoch, .closed []⟩] := by decide +kernel
  have herror : Trace.error? stream = some (.badLine 4) := by decide +kernel
  have haccountable : Accountable CallRecorder.platform s
      ⟨some "%status", none, none, none, none, false, false⟩ :=
    accountable_run CallRecorder.platform (by decide +kernel) rfl
  obtain ⟨-, hrun, -⟩ := haccountable.replayed ⟨"%status", .standardOutput⟩ s
    ⟨[⟨"status", none, .status⟩]⟩ stream rfl (by decide +kernel)
    (Program.renders_iff.mpr (by simp [Column.pattern?])) rfl
  refine ⟨hevents, ?_⟩
  rw [hrun, hevents, herror]
  decide +kernel

end Replay

end TcpJournal
