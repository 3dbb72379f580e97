import Mathlib.Data.List.Infix
import TcpJournal.Proofs.Replay.Turns

/-!
# Schedules of a reader and a handler

Turns may come in any order.  After every schedule the session has handled a
first part of the events that the trace holds before its first error, and once
the handler has finished it has handled them all.  A schedule in which both
sides have their turn again and again does finish.

The main statement (`Pipeline.Faithful`) compares all this with a session that
handles the same events one after another.
-/

namespace TcpJournal

namespace Pipeline

variable {σ : Type} {printer : Printer σ}

/-! ## Nothing is lost -/

theorem session_run (p : Pipeline σ) (schedule : List Turn) :
    (p.run printer schedule).session =
      p.session.handleAll printer (p.handled printer schedule) := by
  induction schedule using List.reverseRecOn with
  | nil => rfl
  | append_singleton past turn ih =>
    rw [run_concat, (step_turn _ turn).session_eq, ih, handled_concat, Session.handleAll,
      Session.handleAll, Session.handleAll, List.foldl_append]

theorem length_queue_run_le (stream : Bytes) (session : Session σ) (schedule : List Turn) :
    ((start stream session).run printer schedule).queue.length ≤ capacity := by
  induction schedule using List.reverseRecOn with
  | nil => exact Nat.zero_le _
  | append_singleton past turn ih =>
    rw [run_concat]
    exact (step_turn _ turn).length_queue_le ih

/-- Every schedule keeps the account of the trace. -/
theorem tracks_run {session : Session σ} (h : session.Completes printer) (stream : Bytes)
    (schedule : List Turn) :
    ((start stream session).run printer schedule).Tracks stream
      ((start stream session).handled printer schedule) := by
  induction schedule using List.reverseRecOn with
  | nil => exact tracks_start stream session
  | append_singleton past turn ih =>
    rw [run_concat, handled_concat]
    refine (step_turn _ turn).tracks ih fun event _ => ?_
    rw [session_run]
    exact h _ event

theorem Tracks.isPrefix {stream : Bytes} {p : Pipeline σ} {handled : List Event}
    (h : p.Tracks stream handled) : handled <+: Trace.events stream := by
  cases hfinished : p.finished with
  | none =>
    obtain ⟨rest, hevents, -⟩ := h.unfinished hfinished
    exact ⟨rest, hevents.symm⟩
  | some finished =>
    rw [(h.finished finished hfinished).1]

/-! ## Nothing waits for ever -/

/-- An endless order of turns in which both sides have their turn again and
again. -/
def Fair (turns : Nat → Turn) : Prop :=
  ∀ turn n, ∃ k, turns (n + k) = turn

/-- A turn that would get on with the work. -/
def Ready (p : Pipeline σ) : Turn → Prop
  | .reader => p.stopped = false ∧ p.queue.length < capacity
  | .handler => p.queue ≠ [] ∨ p.stopped = true

/-- What stands before the end: a line counts twice, once for each side, and so
does the end of the trace. -/
def distance (p : Pipeline σ) : Nat :=
  2 * (if p.stopped then 0 else p.reader.lines.length + 1) + p.queue.length + 1

/-- The work left, until the handler has finished. -/
def work (p : Pipeline σ) : Nat :=
  if p.finished.isSome then 0 else p.distance

theorem work_of_unfinished {p : Pipeline σ} (h : p.finished = none) : p.work = p.distance := by
  rw [work, h]
  rfl

theorem work_le_distance (p : Pipeline σ) : p.work ≤ p.distance := by
  rw [work]
  split
  · exact Nat.zero_le _
  · exact Nat.le_refl _

theorem work_eq_zero {p : Pipeline σ} (h : p.finished ≠ none) : p.work = 0 :=
  if_pos (Option.isSome_iff_ne_none.mpr h)

theorem exists_ready (p : Pipeline σ) : ∃ turn, p.Ready turn := by
  by_cases h : p.Ready .handler
  · exact ⟨.handler, h⟩
  · simp only [Ready, ne_eq, not_or, not_not, Bool.not_eq_true] at h
    refine ⟨.reader, h.2, ?_⟩
    rw [h.1]
    decide

namespace Step

variable {p later : Pipeline σ} {turn : Turn}

/-- A turn that is not ready does nothing. -/
theorem eq_of_not_ready (h : Step printer p turn later) (hready : ¬p.Ready turn) :
    later = p := by
  cases h with
  | readerWaits | handlerRests | handlerWaits => rfl
  | readerStops hstopped hroom | reads hstopped hroom | readerFails hstopped hroom =>
    exact absurd ⟨hstopped, hroom⟩ hready
  | handlerStops _ hstopped => exact absurd (.inr hstopped) hready
  | handlerFails _ _ _ hqueue | handles _ _ _ hqueue =>
    exact absurd (.inl (by simp [hqueue])) hready

/-- A turn that is ready comes nearer to the end, or ends the replay. -/
theorem finished_or_distance_lt (h : Step printer p turn later) (hready : p.Ready turn)
    (hfinished : p.finished = none) :
    later.finished ≠ none ∨ later.distance < p.distance := by
  cases h with
  | readerWaits hwait =>
    rcases hwait with hstopped | hroom
    · exact absurd hready.1 (by simp [hstopped])
    · exact absurd hready.2 (Nat.not_lt.mpr hroom)
  | readerStops hstopped => exact .inr (by simp [distance, hstopped])
  | reads hstopped _ event reader _ hlines =>
    right
    simp only [distance, hstopped, Bool.false_eq_true, if_false, List.length_append,
      List.length_singleton]
    omega
  | readerFails hstopped =>
    right
    simp only [distance, hstopped, Bool.false_eq_true, if_false, if_true, List.length_append,
      List.length_singleton]
    omega
  | handlerRests h => exact absurd hfinished h
  | handlerWaits _ hstopped hqueue =>
    rcases hready with hne | hstop
    · exact absurd hqueue hne
    · exact absurd hstop (by simp [hstopped])
  | handlerStops | handlerFails => exact .inl nofun
  | handles _ event queue hqueue => exact .inr (by simp [distance, hqueue])

/-- A turn that is ready lowers the work left. -/
theorem work_lt (h : Step printer p turn later) (hready : p.Ready turn)
    (hfinished : p.finished = none) : later.work < p.work := by
  rw [work_of_unfinished hfinished]
  rcases h.finished_or_distance_lt hready hfinished with hlater | hlater
  · rw [work_eq_zero hlater]
    exact Nat.succ_pos _
  · exact Nat.lt_of_le_of_lt later.work_le_distance hlater

theorem finished_ne_none (h : Step printer p turn later) (hfinished : p.finished ≠ none) :
    later.finished ≠ none := by
  cases h with
  | readerWaits | readerStops | reads | readerFails | handlerRests => exact hfinished
  | handlerWaits h | handlerStops h | handlerFails h | handles h => exact absurd h hfinished

theorem work_le (h : Step printer p turn later) : later.work ≤ p.work := by
  by_cases hfinished : p.finished = none
  · by_cases hready : p.Ready turn
    · exact (h.work_lt hready hfinished).le
    · rw [h.eq_of_not_ready hready]
  · rw [work_eq_zero (h.finished_ne_none hfinished)]
    exact Nat.zero_le _

/-- Being ready lasts until the turn comes. -/
theorem ready (h : Step printer p turn later) {other : Turn} (hother : turn ≠ other)
    (hready : p.Ready other) : later.Ready other := by
  cases h with
  | readerWaits | handlerRests | handlerWaits => exact hready
  | readerStops =>
    cases other with
    | reader => exact absurd rfl hother
    | handler => exact .inr rfl
  | reads | readerFails =>
    cases other with
    | reader => exact absurd rfl hother
    | handler => exact .inl (by simp)
  | handlerStops =>
    cases other with
    | reader => exact hready
    | handler => exact absurd rfl hother
  | handlerFails _ _ queue hqueue | handles _ _ queue hqueue =>
    cases other with
    | reader =>
      have hroom : queue.length + 1 < capacity := by simpa [hqueue] using hready.2
      exact ⟨hready.1, Nat.lt_of_succ_lt hroom⟩
    | handler => exact absurd rfl hother

end Step

/-- A pipeline after the first turns of an endless order. -/
def after (printer : Printer σ) (p : Pipeline σ) (turns : Nat → Turn) (n : Nat) : Pipeline σ :=
  p.run printer ((List.range n).map turns)

theorem step_after (printer : Printer σ) (p : Pipeline σ) (turns : Nat → Turn) (n : Nat) :
    Step printer (p.after printer turns n) (turns n) (p.after printer turns (n + 1)) := by
  have hnext : p.after printer turns (n + 1) =
      (p.after printer turns n).turn printer (turns n) := by
    rw [after, List.range_succ, List.map_append, List.map_singleton, run_concat, after]
  rw [hnext]
  exact step_turn _ _

/-- Once a turn is ready, the work left falls when the turn comes, if not
before. -/
theorem exists_work_lt_of_ready (p : Pipeline σ) {turns : Nat → Turn} {n k : Nat}
    (hready : (p.after printer turns n).Ready (turns (n + k)))
    (hfinished : (p.after printer turns n).finished = none) :
    ∃ m, (p.after printer turns m).work < (p.after printer turns n).work := by
  induction k generalizing n with
  | zero => exact ⟨n + 1, (step_after printer p turns n).work_lt hready hfinished⟩
  | succ k ih =>
    have hstep := step_after printer p turns n
    by_cases hturn : turns n = turns (n + (k + 1))
    · exact ⟨n + 1, hstep.work_lt (hturn ▸ hready) hfinished⟩
    · -- Another turn comes first, and this one stays ready.
      have hlater := hstep.ready hturn hready
      by_cases hnext : (p.after printer turns (n + 1)).finished = none
      · rw [← Nat.add_assoc, Nat.add_right_comm] at hlater
        obtain ⟨m, hm⟩ := ih hlater hnext
        exact ⟨m, Nat.lt_of_lt_of_le hm hstep.work_le⟩
      · refine ⟨n + 1, ?_⟩
        rw [work_eq_zero hnext, work_of_unfinished hfinished]
        exact Nat.succ_pos _

/-- A fair order of turns finishes. -/
theorem exists_finished_of_fair (printer : Printer σ) (p : Pipeline σ) {turns : Nat → Turn}
    (hfair : Fair turns) :
    ∃ n, (p.after printer turns n).finished ≠ none := by
  by_contra hnever
  have hunfinished : ∀ n, (p.after printer turns n).finished = none := by
    intro n
    by_contra hfinished
    exact hnever ⟨n, hfinished⟩
  -- The work left would fall without end.
  have hfalls : ∀ n, ∃ m, (p.after printer turns m).work < (p.after printer turns n).work := by
    intro n
    obtain ⟨turn, hready⟩ := (p.after printer turns n).exists_ready
    obtain ⟨k, rfl⟩ := hfair turn n
    exact p.exists_work_lt_of_ready hready (hunfinished n)
  have hnone : ∀ w n, (p.after printer turns n).work ≠ w := by
    intro w
    induction w using Nat.strongRecOn with
    | ind w ih =>
      rintro n rfl
      obtain ⟨m, hm⟩ := hfalls n
      exact ih _ hm m rfl
  exact hnone _ 0 rfl

/-! ## The same work without turns -/

theorem sequentialItems_of_itemsIn (session : Session σ) (lines : List Bytes) (number : Nat) :
    sequentialItems printer session ((Trace.Reader.itemsIn lines number).1.map Prod.snd) =
      sequentialItems printer session (Trace.itemsTo lines number) := by
  induction lines generalizing session number with
  | nil => rfl
  | cons line rest ih =>
    rw [Trace.Reader.itemsIn]
    cases hreadable : Trace.isReadable line with
    | false =>
      -- Nothing is handed on behind the first error.
      rw [Trace.readLine_of_not_isReadable hreadable,
        Trace.itemsTo_cons_of_not_isReadable hreadable]
      rfl
    | true =>
      rw [Trace.readLine_of_isReadable hreadable, Trace.itemsTo_cons_of_isReadable hreadable]
      cases Trace.lineEvent? line with
      | none => exact ih session (number + 1)
      | some event =>
        simp only [Option.map_some, Option.toList_some, List.map_cons, List.map_nil,
          List.singleton_append, sequentialItems, ih]

theorem sequentialItems_itemsOf {session : Session σ} (h : session.Completes printer)
    (events : List Event) (error? : Option ReadError) :
    sequentialItems printer session (Trace.itemsOf events error?) =
      (session.handleAll printer events, .ofError? error?) := by
  induction events generalizing session with
  | nil => cases error? <;> rfl
  | cons event rest ih =>
    have hlater : (session.handle printer event).Completes printer :=
      fun past e => h (event :: past) e
    have hcompleted : (session.step printer event).completed = true := h [] event
    change (if (session.step printer event).completed = true then
      sequentialItems printer (session.handle printer event) (Trace.itemsOf rest error?)
      else _) = _
    rw [if_pos hcompleted, ih hlater]
    rfl

/-- What holds of a pipeline between a trace and a session, whatever the order
of the turns is. -/
structure Faithful (printer : Printer σ) (stream : Bytes) (session : Session σ) : Prop where
  /-- No more events wait than there is room for. -/
  length_queue_le : ∀ schedule,
    ((start stream session).run printer schedule).queue.length ≤ capacity
  /-- The session is what a session is that handles the same events alone. -/
  session_eq : ∀ schedule,
    ((start stream session).run printer schedule).session =
      session.handleAll printer ((start stream session).handled printer schedule)
  /-- What has been handled are the first events before the first error of the
  trace, each once and in order. -/
  handled_isPrefix : ∀ schedule,
    (start stream session).handled printer schedule <+: Trace.events stream
  /-- All of them have been handled when the handler finishes, and it finishes
  with that error or at the end of the trace. -/
  ended : ∀ schedule finished,
    ((start stream session).run printer schedule).finished = some finished →
      (start stream session).handled printer schedule = Trace.events stream ∧
        finished = .ofError? (Trace.error? stream)
  /-- The handler does finish if both sides have their turn again and again. -/
  ends : ∀ turns, Fair turns → ∃ n,
    ((start stream session).after printer turns n).finished =
      some (.ofError? (Trace.error? stream))
  /-- The work without turns comes to the same. -/
  sequential_eq : sequential printer session stream =
    (session.handleAll printer (Trace.events stream), .ofError? (Trace.error? stream))

theorem faithful_of_completes {session : Session σ} (h : session.Completes printer)
    (stream : Bytes) : Faithful printer stream session where
  length_queue_le := length_queue_run_le stream session
  session_eq := session_run _
  handled_isPrefix schedule := (tracks_run h stream schedule).isPrefix
  ended schedule := (tracks_run h stream schedule).finished
  ends turns hfair := by
    obtain ⟨n, hn⟩ := exists_finished_of_fair printer (start stream session) hfair
    obtain ⟨finished, hfinished⟩ := Option.ne_none_iff_exists'.mp hn
    refine ⟨n, ?_⟩
    rw [hfinished, ((tracks_run h stream _).finished finished hfinished).2]
  sequential_eq := by
    rw [sequential, Trace.Reader.items, sequentialItems_of_itemsIn]
    exact sequentialItems_itemsOf h _ _

end Pipeline

end TcpJournal
