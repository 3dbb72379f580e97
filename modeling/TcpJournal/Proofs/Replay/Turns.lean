import Mathlib.Data.List.Induction
import TcpJournal.Proofs.Trace.Lines
import TcpJournal.Replay.Pipeline

/-!
# Turns of a reader and a handler

`Pipeline.Step` says once what a turn can do.  Nothing is lost between the trace
and the session then: what has been handled, what waits in the queue and what has
not been read are together the trace up to its first error
(`Pipeline.Step.tracks`).
-/

namespace TcpJournal

namespace ReplayEnd

/-- How a replay ends that is not interrupted: at an error, or at the end of the
trace if there is none. -/
def ofError? : Option ReadError → ReplayEnd
  | none => .exhausted
  | some cause => .inputFailed cause

end ReplayEnd

namespace Session

/-- A session that no event interrupts. -/
def Completes (printer : Printer σ) (session : Session σ) : Prop :=
  ∀ past e, ((session.handleAll printer past).step printer e).completed = true

end Session

namespace Pipeline

variable {σ : Type} {printer : Printer σ}

/-- What a turn does to a pipeline. -/
inductive Step (printer : Printer σ) (p : Pipeline σ) : Turn → Pipeline σ → Prop where
  /-- The reader has stopped, or there is no room. -/
  | readerWaits (h : p.stopped = true ∨ capacity ≤ p.queue.length) : Step printer p .reader p
  /-- The reader finds the end of the trace. -/
  | readerStops (hstopped : p.stopped = false) (hroom : p.queue.length < capacity)
    (reader : Trace.Reader) (hleft : p.reader.left = []) :
    Step printer p .reader { p with reader, stopped := true }
  /-- The reader puts an event into the queue. -/
  | reads (hstopped : p.stopped = false) (hroom : p.queue.length < capacity) (event : Event)
    (reader : Trace.Reader) (hleft : p.reader.left = .ok event :: reader.left)
    (hlines : reader.lines.length < p.reader.lines.length) :
    Step printer p .reader { p with reader, queue := p.queue ++ [.ok event] }
  /-- The reader puts an error into the queue and stops. -/
  | readerFails (hstopped : p.stopped = false) (hroom : p.queue.length < capacity)
    (cause : ReadError) (reader : Trace.Reader) (hleft : p.reader.left = [.error cause]) :
    Step printer p .reader
      { p with reader, stopped := true, queue := p.queue ++ [.error cause] }
  /-- The handler has finished. -/
  | handlerRests (hfinished : p.finished ≠ none) : Step printer p .handler p
  /-- The handler finds nothing, but more may come. -/
  | handlerWaits (hfinished : p.finished = none) (hstopped : p.stopped = false)
    (hqueue : p.queue = []) : Step printer p .handler p
  /-- The handler finds nothing, and nothing will come. -/
  | handlerStops (hfinished : p.finished = none) (hstopped : p.stopped = true)
    (hqueue : p.queue = []) :
    Step printer p .handler { p with finished := some .exhausted }
  /-- The handler takes an error out of the queue and finishes. -/
  | handlerFails (hfinished : p.finished = none) (cause : ReadError)
    (queue : List (Except ReadError Event)) (hqueue : p.queue = .error cause :: queue) :
    Step printer p .handler { p with queue, finished := some (.inputFailed cause) }
  /-- The handler takes an event out of the queue, and the session handles it. -/
  | handles (hfinished : p.finished = none) (event : Event)
    (queue : List (Except ReadError Event)) (hqueue : p.queue = .ok event :: queue) :
    Step printer p .handler
      { p with
        queue, session := p.session.handle printer event,
        finished := if (p.session.step printer event).completed then none
          else some .abandoned }

theorem step_readerTurn (p : Pipeline σ) : Step printer p .reader p.readerTurn := by
  unfold readerTurn
  by_cases hwait : (p.stopped || decide (capacity ≤ p.queue.length)) = true
  · rw [if_pos hwait]
    exact .readerWaits (by simpa using hwait)
  · rw [if_neg hwait]
    have hready : p.stopped = false ∧ p.queue.length < capacity := by simpa using hwait
    have hleft : p.reader.left = _ := Trace.Reader.itemsTo_eq p.reader.lines p.reader.number
    unfold Trace.Reader.next
    cases hnext : Trace.Reader.nextIn p.reader.lines p.reader.number with
    | mk item? reader =>
      rw [hnext] at hleft
      cases item? with
      | none => exact .readerStops hready.1 hready.2 reader hleft
      | some item =>
        cases item with
        | ok event =>
          exact .reads hready.1 hready.2 event reader hleft
            (Trace.Reader.length_lines_lt_of_nextIn hnext)
        | error cause => exact .readerFails hready.1 hready.2 cause reader hleft

theorem step_handlerTurn (p : Pipeline σ) :
    Step printer p .handler (p.handlerTurn printer) := by
  obtain ⟨reader, stopped, queue, session, finished⟩ := p
  cases finished with
  | some finished => exact .handlerRests nofun
  | none =>
    match queue, stopped with
    | [], false => exact .handlerWaits rfl rfl rfl
    | [], true => exact .handlerStops rfl rfl rfl
    | .error cause :: queue, _ => exact .handlerFails rfl cause queue rfl
    | .ok event :: queue, _ => exact .handles rfl event queue rfl

theorem step_turn (p : Pipeline σ) (turn : Turn) :
    Step printer p turn (p.turn printer turn) := by
  cases turn with
  | reader => exact p.step_readerTurn
  | handler => exact p.step_handlerTurn

/-! ## What is handled -/

/-- The event that a turn takes out of the queue for the session. -/
def taken? (p : Pipeline σ) : Turn → Option Event
  | .reader => none
  | .handler =>
    if p.finished.isSome then none
    else
      match p.queue with
      | .ok event :: _ => some event
      | _ => none

section Taken

variable {p : Pipeline σ}

theorem taken?_of_finished (h : p.finished ≠ none) : p.taken? .handler = none := by
  rw [taken?, if_pos (Option.isSome_iff_ne_none.mpr h)]

theorem taken?_of_queue_eq_nil (h : p.queue = []) : p.taken? .handler = none := by
  simp [taken?, h]

theorem taken?_of_error {cause : ReadError} {queue : List (Except ReadError Event)}
    (h : p.queue = .error cause :: queue) : p.taken? .handler = none := by
  simp [taken?, h]

theorem taken?_of_event {event : Event} {queue : List (Except ReadError Event)}
    (hfinished : p.finished = none) (h : p.queue = .ok event :: queue) :
    p.taken? .handler = some event := by
  simp [taken?, hfinished, h]

end Taken

/-- The events that the session handles during the turns of a schedule, in
order. -/
def handled (printer : Printer σ) (p : Pipeline σ) : List Turn → List Event
  | [] => []
  | turn :: rest => (p.taken? turn).toList ++ handled printer (p.turn printer turn) rest

theorem run_concat (p : Pipeline σ) (schedule : List Turn) (turn : Turn) :
    p.run printer (schedule ++ [turn]) = (p.run printer schedule).turn printer turn :=
  List.foldl_concat ..

theorem handled_concat (p : Pipeline σ) (schedule : List Turn) (turn : Turn) :
    p.handled printer (schedule ++ [turn]) =
      p.handled printer schedule ++ ((p.run printer schedule).taken? turn).toList := by
  induction schedule generalizing p with
  | nil => exact List.append_nil _
  | cons first rest ih =>
    rw [List.cons_append, handled, ih, handled, List.append_assoc]
    rfl

namespace Step

variable {p later : Pipeline σ} {turn : Turn}

/-- The session changes only by the event that is taken for it. -/
theorem session_eq (h : Step printer p turn later) :
    later.session = p.session.handleAll printer (p.taken? turn).toList := by
  cases h with
  | readerWaits | readerStops | reads | readerFails => rfl
  | handlerRests hfinished =>
    rw [taken?_of_finished hfinished]
    rfl
  | handlerWaits _ _ hqueue | handlerStops _ _ hqueue =>
    rw [taken?_of_queue_eq_nil hqueue]
    rfl
  | handlerFails _ _ _ hqueue =>
    rw [taken?_of_error hqueue]
    rfl
  | handles hfinished _ _ hqueue =>
    rw [taken?_of_event hfinished hqueue]
    rfl

/-- No more events wait in the queue than there is room for. -/
theorem length_queue_le (h : Step printer p turn later) (hp : p.queue.length ≤ capacity) :
    later.queue.length ≤ capacity := by
  cases h with
  | readerWaits | readerStops | handlerRests | handlerWaits | handlerStops => exact hp
  | reads _ hroom | readerFails _ hroom =>
    rw [List.length_append]
    exact hroom
  | handlerFails _ _ _ hqueue | handles _ _ _ hqueue =>
    rw [hqueue] at hp
    exact Nat.le_of_succ_le hp

end Step

/-- What is still to come at the handler: the queue, and behind it what the
reader has not handed out. -/
def pending (p : Pipeline σ) : List (Except ReadError Event) :=
  p.queue ++ if p.stopped then [] else p.reader.left

/-- The handler has done the first part of what a trace holds, and what is to
come is the rest.  A handler that has finished has done all. -/
structure Tracks (stream : Bytes) (p : Pipeline σ) (handled : List Event) : Prop where
  unfinished : p.finished = none →
    ∃ rest, Trace.events stream = handled ++ rest ∧
      Trace.itemsOf rest (Trace.error? stream) = p.pending
  finished : ∀ finished, p.finished = some finished →
    handled = Trace.events stream ∧ finished = .ofError? (Trace.error? stream)

theorem tracks_start (stream : Bytes) (session : Session σ) :
    (start stream session).Tracks stream [] where
  unfinished _ := ⟨Trace.events stream, rfl, (Trace.Reader.left_ofBytes stream).symm⟩
  finished _ h := nomatch h

namespace Step

variable {p later : Pipeline σ} {turn : Turn} {stream : Bytes} {handled : List Event}

/-- Reading ahead changes nothing in what is to come. -/
theorem pending_reader (h : Step printer p .reader later) : later.pending = p.pending := by
  cases h with
  | readerWaits => rfl
  | readerStops hstopped _ reader hleft => simp [pending, hstopped, hleft]
  | reads hstopped _ event reader hleft => simp [pending, hstopped, hleft]
  | readerFails hstopped _ cause reader hleft => simp [pending, hstopped, hleft]

theorem finished_reader (h : Step printer p .reader later) : later.finished = p.finished := by
  cases h with
  | readerWaits | readerStops | reads | readerFails => rfl

/-- A turn that no record interrupts keeps the account of the trace. -/
theorem tracks (h : Step printer p turn later) (hp : p.Tracks stream handled)
    (hcompletes : ∀ event, p.taken? turn = some event →
      (p.session.step printer event).completed = true) :
    later.Tracks stream (handled ++ (p.taken? turn).toList) := by
  cases turn with
  | reader =>
    rw [taken?, Option.toList_none, List.append_nil]
    refine ⟨fun hunfinished => ?_, fun finished hfinished => ?_⟩
    · rw [h.pending_reader]
      exact hp.unfinished (h.finished_reader ▸ hunfinished)
    · exact hp.finished finished (h.finished_reader ▸ hfinished)
  | handler =>
    cases h with
    | handlerRests hfinished =>
      rwa [taken?_of_finished hfinished, Option.toList_none, List.append_nil]
    | handlerWaits _ _ hqueue =>
      rwa [taken?_of_queue_eq_nil hqueue, Option.toList_none, List.append_nil]
    | handlerStops hfinished hstopped hqueue =>
      rw [taken?_of_queue_eq_nil hqueue, Option.toList_none, List.append_nil]
      refine ⟨nofun, ?_⟩
      rintro _ ⟨⟩
      obtain ⟨rest, hevents, hpending⟩ := hp.unfinished hfinished
      have hnil : p.pending = [] := by simp [pending, hqueue, hstopped]
      obtain ⟨rfl, herror⟩ := Trace.itemsOf_eq_nil_iff.mp (hpending.trans hnil)
      rw [hevents, List.append_nil, herror]
      exact ⟨rfl, rfl⟩
    | handlerFails hfinished cause queue hqueue =>
      rw [taken?_of_error hqueue, Option.toList_none, List.append_nil]
      refine ⟨nofun, ?_⟩
      rintro _ ⟨⟩
      obtain ⟨rest, hevents, hpending⟩ := hp.unfinished hfinished
      rw [pending, hqueue] at hpending
      obtain ⟨rfl, herror⟩ := Trace.eq_of_itemsOf_eq_cons_error hpending
      rw [hevents, List.append_nil, herror]
      exact ⟨rfl, rfl⟩
    | handles hfinished event queue hqueue =>
      have htaken := taken?_of_event hfinished hqueue
      rw [htaken, Option.toList_some, hcompletes event htaken]
      refine ⟨fun _ => ?_, nofun⟩
      obtain ⟨rest, hevents, hpending⟩ := hp.unfinished hfinished
      rw [pending, hqueue] at hpending
      obtain ⟨later, rfl, hlater⟩ := Trace.exists_eq_of_itemsOf_eq_cons_ok hpending
      exact ⟨later, by simp [hevents], hlater.symm⟩

end Step

end Pipeline

end TcpJournal
