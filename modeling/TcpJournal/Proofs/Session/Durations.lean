import TcpJournal.Proofs.Field.Anchors
import TcpJournal.Proofs.Session.Records

/-!
# Durations of regular connections

A regular connection is attempted, opened, carries payload in both directions
and is closed, at times that do not decrease.  Events of an earlier phase come
before those of a later one, so the end of a span does not lie before its
start.

The latency is the one span whose ends may stand the other way round: it runs
from the latest open or request to the latest response, and a request may still
wait for its response when the connection is closed.
-/

namespace TcpJournal

/-- The place of a kind of event in the life of a regular connection. -/
def ActivityKind.phase : ActivityKind → Nat
  | .opening => 0
  | .opened => 1
  | .request | .response => 2
  | .closed => 3

theorem ActivityKind.phase_le_phase_closed (kind : ActivityKind) : kind.phase ≤ phase .closed := by
  cases kind <;> decide

/-- The events of a regular connection: any number of openings, then of opens,
then requests and responses in any order, and one close. -/
structure RegularRun where
  openings : List Event
  opens : List Event
  payload : List Event
  close : Event
  kind_openings : ∀ e ∈ openings, e.kind = .opening
  kind_opens : ∀ e ∈ opens, e.kind = .opened
  kind_payload : ∀ e ∈ payload, e.kind = .request ∨ e.kind = .response
  kind_close : close.kind = .closed
  /-- All events belong to the connection that is closed. -/
  id_eq : ∀ e ∈ openings ++ opens ++ payload, e.id = close.id
  /-- Times do not decrease. -/
  sorted : (openings ++ opens ++ payload ++ [close]).Pairwise fun a b => a.time ≤ b.time
  /-- No event lies in a leap second. -/
  inLeapSecond_eq : ∀ e ∈ openings ++ opens ++ payload ++ [close], e.time.inLeapSecond = false

namespace RegularRun

/-- The events before the close. -/
def past (run : RegularRun) : List Event := run.openings ++ run.opens ++ run.payload

/-- All events in order. -/
def events (run : RegularRun) : List Event := run.past ++ [run.close]

/-- The latest open or request lies after the latest response, by a microsecond
or more. -/
def AskedAfterResponse (run : RegularRun) : Prop :=
  ∃ asked answered,
    Event.latestTime [.opened, .request] run.events = some asked ∧
      Event.latestTime [.response] run.events = some answered ∧
      1000 ≤ Instant.nanosBetween answered asked

variable (run : RegularRun)

theorem close_mem_events : run.close ∈ run.events :=
  List.mem_append_right _ (List.mem_singleton_self _)

theorem kind_ne_closed_of_mem_past {e : Event} (he : e ∈ run.past) : e.kind ≠ .closed := by
  rcases List.mem_append.mp he with h | hpayload
  · rcases List.mem_append.mp h with hopening | hopen
    · simp [run.kind_openings e hopening]
    · simp [run.kind_opens e hopen]
  · rcases run.kind_payload e hpayload with h | h <;> simp [h]

/-- The phases of a regular connection do not decrease. -/
theorem pairwise_phase_le :
    run.events.Pairwise fun a b => a.kind.phase ≤ b.kind.phase := by
  have hopenings : ∀ e ∈ run.openings, e.kind.phase = 0 := fun e he => by
    rw [run.kind_openings e he, ActivityKind.phase]
  have hopens : ∀ e ∈ run.opens, e.kind.phase = 1 := fun e he => by
    rw [run.kind_opens e he, ActivityKind.phase]
  have hpayload : ∀ e ∈ run.payload, e.kind.phase = 2 := fun e he => by
    rcases run.kind_payload e he with h | h <;> rw [h, ActivityKind.phase]
  have hpart : ∀ {part : List Event} {n : Nat}, (∀ e ∈ part, e.kind.phase = n) →
      part.Pairwise fun a b => a.kind.phase ≤ b.kind.phase := fun h =>
    List.pairwise_of_forall_mem_list fun a ha b hb => by rw [h a ha, h b hb]
  refine List.pairwise_append.mpr ⟨List.pairwise_append.mpr
    ⟨List.pairwise_append.mpr ⟨hpart hopenings, hpart hopens, ?_⟩, hpart hpayload, ?_⟩,
      List.pairwise_singleton _ _, ?_⟩
  · intro a ha b _
    rw [hopenings a ha]
    exact Nat.zero_le _
  · intro a ha b hb
    rw [hpayload b hb]
    rcases List.mem_append.mp ha with hopening | hopen
    · rw [hopenings a hopening]
      decide
    · rw [hopens a hopen]
      decide
  · intro a _ b hb
    rw [List.mem_singleton.mp hb, run.kind_close]
    exact a.kind.phase_le_phase_closed

/-- An event of an earlier phase does not lie behind one of a later phase. -/
theorem time_le_of_phase_lt {a b : Event} (ha : a ∈ run.events) (hb : b ∈ run.events)
    (h : a.kind.phase < b.kind.phase) : a.time ≤ b.time := by
  obtain ⟨i, hi, rfl⟩ := List.mem_iff_getElem.mp ha
  obtain ⟨j, hj, rfl⟩ := List.mem_iff_getElem.mp hb
  rcases Nat.lt_trichotomy i j with hlt | rfl | hgt
  · exact List.pairwise_iff_getElem.mp run.sorted i j hi hj hlt
  · omega
  · -- Then the phases would go back.
    have hphase := List.pairwise_iff_getElem.mp run.pairwise_phase_le j i hj hi hgt
    omega

theorem time_le_of_kinds {earlier later : List ActivityKind}
    (hphases : ∀ kind ∈ earlier, ∀ kind' ∈ later, kind.phase < kind'.phase) {a b : Event}
    (ha : a ∈ run.events) (hb : b ∈ run.events) (hearlier : a.kind ∈ earlier)
    (hlater : b.kind ∈ later) : a.time ≤ b.time :=
  run.time_le_of_phase_lt ha hb (hphases _ hearlier _ hlater)

/-- Except for the latency, the two ends of a span are the times of two events
in order. -/
theorem exists_ends_of_ne_latency {span : Span} (hspan : span ≠ .latency) {start stop : Instant}
    (hstart : (span.anchorsOf run.events).start = some start)
    (hstop : span.stopAt (span.anchorsOf run.events) run.close.time = some stop) :
    ∃ a ∈ run.events, ∃ b ∈ run.events, a.time = start ∧ b.time = stop ∧ a.time ≤ b.time := by
  cases span with
  | latency => exact absurd rfl hspan
  | requestPhase | responsePhase =>
    obtain ⟨a, ha, -, rfl⟩ := Event.exists_of_firstTime_eq_some hstart
    obtain ⟨b, hb, -, rfl⟩ := Event.exists_of_latestTime_eq_some hstop
    exact ⟨a, ha, b, hb, rfl, rfl, Event.firstTime_le_latestTime run.sorted hstart hstop⟩
  | firstAnswer =>
    obtain ⟨a, ha, -, rfl⟩ := Event.exists_of_latestTime_eq_some hstart
    obtain ⟨b, hb, -, rfl⟩ := Event.exists_of_firstTime_eq_some hstop
    have hmem : a ∈ run.events := (List.takeWhile_prefix _).subset ha
    exact ⟨a, hmem, b, hb, rfl, rfl, Event.time_le_firstTime_response run.sorted ha hstop⟩
  | idleBefore =>
    obtain ⟨a, ha, hopened, rfl⟩ := Event.exists_of_latestTime_eq_some hstart
    obtain ⟨b, hb, hrequest, rfl⟩ := Event.exists_of_firstTime_eq_some hstop
    exact ⟨a, ha, b, hb, rfl, rfl, run.time_le_of_kinds (by decide) ha hb hopened hrequest⟩
  | idleAfter =>
    obtain ⟨a, ha, hresponse, rfl⟩ := Event.exists_of_latestTime_eq_some hstart
    have hclose : run.close.kind ∈ [ActivityKind.closed] := List.mem_singleton.mpr run.kind_close
    exact ⟨a, ha, run.close, run.close_mem_events, rfl, Option.some.inj hstop,
      run.time_le_of_kinds (by decide) ha run.close_mem_events hresponse hclose⟩
  | lingering =>
    obtain ⟨a, ha, hactive, rfl⟩ := Event.exists_of_latestTime_eq_some hstart
    obtain ⟨b, hb, hclosed, rfl⟩ := Event.exists_of_latestTime_eq_some hstop
    exact ⟨a, ha, b, hb, rfl, rfl, run.time_le_of_kinds (by decide) ha hb hactive hclosed⟩
  | handshake =>
    obtain ⟨a, ha, hopening, rfl⟩ := Event.exists_of_firstTime_eq_some hstart
    obtain ⟨b, hb, hopened, rfl⟩ := Event.exists_of_latestTime_eq_some hstop
    exact ⟨a, ha, b, hb, rfl, rfl, run.time_le_of_kinds (by decide) ha hb hopening hopened⟩

/-- Only the latency can be written with a minus sign, and it is if the
connection asked after its latest response. -/
theorem head?_text_anchorsOf_iff (span : Span) :
    (span.text (span.anchorsOf run.events) run.close.time).head? = some '-' ↔
      span = .latency ∧ run.AskedAfterResponse := by
  rw [Span.head?_text_eq_minus_iff]
  by_cases hspan : span = .latency
  · subst hspan
    have hflip : ∀ asked answered,
        Event.latestTime [.opened, .request] run.events = some asked →
          Event.latestTime [.response] run.events = some answered →
            Instant.nanosBetween asked answered = -Instant.nanosBetween answered asked := by
      intro asked answered hasked hanswered
      obtain ⟨a, ha, -, rfl⟩ := Event.exists_of_latestTime_eq_some hasked
      obtain ⟨b, hb, -, rfl⟩ := Event.exists_of_latestTime_eq_some hanswered
      exact Instant.nanosBetween_neg (run.inLeapSecond_eq b hb) (run.inLeapSecond_eq a ha)
    constructor
    · rintro ⟨asked, answered, hasked, hanswered, hnanos⟩
      have hopposite := hflip asked answered hasked hanswered
      exact ⟨rfl, asked, answered, hasked, hanswered, by omega⟩
    · rintro ⟨-, asked, answered, hasked, hanswered, hnanos⟩
      have hopposite := hflip asked answered hasked hanswered
      exact ⟨asked, answered, hasked, hanswered, by omega⟩
  · constructor
    · rintro ⟨start, stop, hstart, hstop, hnanos⟩
      obtain ⟨a, ha, b, hb, rfl, rfl, hle⟩ := run.exists_ends_of_ne_latency hspan hstart hstop
      have hnonneg := Instant.nanosBetween_nonneg (run.inLeapSecond_eq a ha)
        (run.inLeapSecond_eq b hb) hle
      omega
    · rintro ⟨h, -⟩
      exact absurd h hspan

/-! ## The record of the close -/

/-- Before the close nothing of the connection is forgotten. -/
theorem sinceClose_past : run.close.id.sinceClose run.past = run.past :=
  Connection.sinceClose_eq_self fun e he => ⟨run.id_eq e he, run.kind_ne_closed_of_mem_past he⟩

/-- The flow of the connection at its close. -/
def flow (program : Program) : Flow :=
  (Flow.start run.close.id program).observeAll run.events

/-- A session prints one record of the connection, at the close. -/
theorem calls_events (program : Program) :
    Session.calls program run.events = [⟨(run.flow program).fields, run.close.time⟩] := by
  have hnone : Session.calls program run.past = [] := by
    have hclosed : (run.past.filter fun e => e.kind = .closed) = [] :=
      List.filter_eq_nil_iff.mpr fun e he => by simpa using run.kind_ne_closed_of_mem_past he
    rw [← List.length_eq_zero_iff, Session.length_calls, hclosed, List.length_nil]
  rw [events, Session.calls_concat_of_closed program run.past run.kind_close, hnone,
    Flow.closing, sinceClose_past]
  rfl

/-- In the one record of a regular connection no duration is negative but the
latency, which is negative exactly if the latest open or request lies after the
latest response. -/
theorem head?_duration_iff {program : Program} {i : Nat} {c : ProgramColumn} {span : Span}
    (hc : program.columns[i]? = some c) (hspan : c.column = .span span) :
    Session.calls program run.events = [⟨(run.flow program).fields, run.close.time⟩] ∧
      ∃ text, (run.flow program).text? i run.close.time = some (Bytes.ofText text) ∧
        (text.head? = some '-' ↔ span = .latency ∧ run.AskedAfterResponse) := by
  refine ⟨run.calls_events program, _, ?_, run.head?_text_anchorsOf_iff span⟩
  rw [flow, Flow.text?_observeAll_start hc, hspan, Field.observeAll_span]
  rfl

/-- A request, its response and one more request, a second apart from each other. -/
def pipelined : RegularRun :=
  let id : Connection := ⟨.v4 0x0A000001 40000, .v4 0x0A000002 80⟩
  { openings := []
    opens := []
    payload := [⟨id, .ofTimeval 1 0, .request [0x47]⟩, ⟨id, .ofTimeval 2 0, .response [0x4F]⟩,
      ⟨id, .ofTimeval 3 0, .request [0x47]⟩]
    close := ⟨id, .ofTimeval 4 0, .closed []⟩
    kind_openings := by decide
    kind_opens := by decide
    kind_payload := by decide
    kind_close := rfl
    id_eq := by decide
    sorted := by decide
    inLeapSecond_eq := by decide }

/-- The second request makes the latency negative. -/
theorem head?_latency_of_pipelined :
    let program : Program := ⟨[⟨"latency", none, .span .latency⟩]⟩
    ∃ text, (pipelined.flow program).text? 0 pipelined.close.time = some (Bytes.ofText text) ∧
      text.head? = some '-' := by
  intro program
  obtain ⟨-, text, htext, hminus⟩ :=
    pipelined.head?_duration_iff (show program.columns[0]? = some _ from rfl) rfl
  have hasked : pipelined.AskedAfterResponse :=
    ⟨.ofTimeval 3 0, .ofTimeval 2 0, by decide, by decide, by decide⟩
  exact ⟨text, htext, hminus.mpr ⟨rfl, hasked⟩⟩

/-- A request that no response follows is enough to make a duration negative. -/
theorem not_forall_head?_ne_minus :
    ¬∀ (run : RegularRun) (span : Span),
      ∀ call ∈ Session.calls ⟨[⟨"", none, .span span⟩]⟩ run.events, ∀ text,
        call.record? = some (Bytes.ofText text) → text.head? ≠ some '-' := by
  intro h
  let anchors : Anchors := ⟨some (.ofTimeval 3 0), some (.ofTimeval 2 0)⟩
  have hcall : ⟨[.span .latency anchors], .ofTimeval 4 0⟩ ∈
      Session.calls ⟨[⟨"", none, .span .latency⟩]⟩ pipelined.events := by decide
  have hrecord : PrintCall.record? ⟨[.span .latency anchors], .ofTimeval 4 0⟩ =
      some (Bytes.ofText "-1.000000".toList) := by decide +kernel
  exact h pipelined .latency _ hcall _ hrecord rfl

end RegularRun

end TcpJournal
