import Mathlib.Data.List.Forall2
import TcpJournal.Proofs.Trace.Significant
import TcpJournal.Replay.Pipeline

/-!
# Three ways into a session

Events reach a session by a report for each kind of event, as values, or through a trace
of them.  A report does what its event does, to the step (`Session.report_eq_step`), and
of a trace only the significant lines matter.

The main statement (`Trace.read_of_retouched`) puts this together: a reader finds what
the significant lines carry, changes that touch none of them change nothing, and a
session is the same whichever way its events come.
-/

namespace TcpJournal

theorem Activity.ofKind_kind_data (activity : Activity) :
    ofKind activity.kind activity.data activity.data = activity := by
  cases activity <;> rfl

/-- An event is told by its kind and what is seen of it. -/
theorem Event.event_observation (e : Event) : e.observation.event e.kind = e := by
  rw [Observation.event, observation, kind, data, Activity.ofKind_kind_data]

namespace Session

variable (printer : Printer σ) (session : Session σ)

theorem dispatch_observation (e : Event) :
    dispatch printer session e.kind e.observation = step printer session e := by
  rw [dispatch, Event.event_observation]

/-- Each report takes in its event. -/
theorem report_eq_step (e : Event) : report printer session e = step printer session e := by
  rw [← dispatch_observation]
  obtain ⟨id, time, activity⟩ := e
  cases activity <;> rfl

theorem reportAll_eq_handleAll (events : List Event) :
    reportAll printer session events = handleAll printer session events := by
  unfold reportAll handleAll
  congr
  funext session e
  rw [report_eq_step, handle]

/-- The session after the events that a reader finds. -/
def handleFound (reader : Trace.Reader) : Session σ :=
  handleAll printer session (reader.items.1.filterMap fun item => item.2.toOption)

end Session

namespace Trace

/-- The significant lines of the text carry these events, and nothing else. -/
def IsTraceOf (text : List Char) (events : List Event) : Prop :=
  (significantLines text).map parseLine? = events.map some

/-- Two lists that agree under one reading agree under every coarser one. -/
theorem map_eq_map_of_imp {α β γ δ : Type} {xs : List α} {ys : List β} {f : α → γ} {p : β → γ}
    {g : α → δ} {q : β → δ} (h : ∀ x y, f x = p y → g x = q y) (heq : xs.map f = ys.map p) :
    xs.map g = ys.map q := by
  rw [← List.forall₂_eq_eq_eq, List.forall₂_map_left_iff, List.forall₂_map_right_iff] at heq ⊢
  exact heq.imp h

theorem significantItem_of_parseLine? {line : List Char} {e : Event}
    (h : parseLine? line = some e) : significantItem line = .ok e := by
  rw [significantItem, h]

theorem eq_ok_of_mapError_withoutNumber {item : Except ReadError Event} {e : Event}
    (h : item.mapError withoutNumber = .ok e) : item = .ok e := by
  cases item with
  | error cause => cases h
  | ok event => exact h

section IsTraceOf

variable {text : List Char} {events : List Event}

/-- A reader of a trace of events finds these events. -/
theorem IsTraceOf.items_eq (h : IsTraceOf text events) :
    (Reader.ofBytes (Bytes.ofText text)).items.1.map Prod.snd = events.map .ok := by
  have hfound : (Reader.ofBytes (Bytes.ofText text)).unnumberedItems = events.map .ok := by
    rw [Reader.unnumberedItems_ofText]
    exact map_eq_map_of_imp (fun _ _ => significantItem_of_parseLine?) h
  exact map_eq_map_of_imp (fun _ _ => eq_ok_of_mapError_withoutNumber) hfound

theorem IsTraceOf.handleFound_eq (h : IsTraceOf text events) (printer : Printer σ)
    (session : Session σ) :
    session.handleFound printer (.ofBytes (Bytes.ofText text)) =
      session.handleAll printer events := by
  have hfound : (Reader.ofBytes (Bytes.ofText text)).items.1.filterMap
      (fun item => item.2.toOption) = events := by
    calc
      _ = ((Reader.ofBytes (Bytes.ofText text)).items.1.map Prod.snd).filterMap
          Except.toOption := by rw [List.filterMap_map, Function.comp_def]
      _ = (events.map Except.ok).filterMap fun item : Except ReadError Event => item.toOption := by
        rw [h.items_eq]
      _ = events := by rw [List.filterMap_map]; exact List.filterMap_some
  rw [Session.handleFound, hfound]

end IsTraceOf

/-- Three facts about traces of text.  A reader finds what the significant lines carry.
Changes that touch no significant line change nothing that it finds.  And a session is the
same, with its output, its counters and its open flows, whether events come through a
trace of them, as values, or by reports. -/
theorem read_of_retouched :
    (∀ text, (Reader.ofBytes (Bytes.ofText text)).unnumberedItems =
      (significantLines text).map significantItem) ∧
    (∀ text other, Relation.EqvGen Retouch text other →
      (Reader.ofBytes (Bytes.ofText text)).unnumberedItems =
        (Reader.ofBytes (Bytes.ofText other)).unnumberedItems) ∧
    (∀ {σ : Type} (printer : Printer σ) (session : Session σ),
      (∀ text events, IsTraceOf text events →
        session.handleFound printer (.ofBytes (Bytes.ofText text)) =
            session.handleAll printer events ∧
          Pipeline.sequential printer session (Bytes.ofText text) =
            Pipeline.sequentialItems printer session (events.map .ok)) ∧
      (∀ e, session.report printer e = session.step printer e) ∧
      (∀ events, session.reportAll printer events = session.handleAll printer events)) := by
  refine ⟨Reader.unnumberedItems_ofText, fun text other h => ?_, fun printer session => ?_⟩
  · rw [Reader.unnumberedItems_ofText, Reader.unnumberedItems_ofText,
      significantLines_eq_of_eqvGen h]
  · refine ⟨fun text events h => ⟨h.handleFound_eq printer session, ?_⟩, ?_, ?_⟩
    · rw [Pipeline.sequential, h.items_eq]
    · exact session.report_eq_step printer
    · exact session.reportAll_eq_handleAll printer

/-- A comment, padding, a carriage return and a missing last newline change nothing, and a
session takes the close from the trace as it takes the event and its report. -/
theorem read_of_commented_trace :
    let close := "[\"close\",\"10.0.0.1:9\",\"10.0.0.2:80\",\"1970-01-01T00:00:00Z\"]".toList
    let text := close ++ ['\n']
    let other := "# one\n".toList ++ (['\u00a0'] ++ close ++ [' '] ++ ['\r'])
    let e : Event := ⟨⟨.v4 0x0A000001 9, .v4 0x0A000002 80⟩, .epoch, .closed []⟩
    let printer : Printer Bytes := .ofRecord fun record written => (.ok (), written ++ record)
    let session := Session.start ⟨[⟨"status", none, .status⟩]⟩ []
    Relation.EqvGen Retouch text other ∧
      (Reader.ofBytes (Bytes.ofText text)).unnumberedItems =
        (Reader.ofBytes (Bytes.ofText other)).unnumberedItems ∧
      IsTraceOf text [e] ∧
      session.handleFound printer (.ofBytes (Bytes.ofText text)) =
        session.reportAll printer [e] ∧
      (session.reportAll printer [e]).printer = Bytes.ofString "unknown" := by
  intro close text other e printer session
  have hcomment : AtLineStart "# one\n".toList := Or.inr ⟨"# one".toList, by decide⟩
  have hchain : Relation.EqvGen Retouch text other := by
    apply Relation.EqvGen.trans _ ("# one\n".toList ++ text)
    · have hidle : isSignificant (Text.trim "# one".toList) = false := by decide
      exact .rel _ _ (.insert (Or.inl rfl) (by decide) hidle)
    apply Relation.EqvGen.trans _ ("# one\n".toList ++ (['\u00a0'] ++ close ++ [' '] ++ ['\n']))
    · exact .rel _ _ (.pad hcomment (by decide +kernel) (Or.inr ⟨[], rfl⟩)
        (List.forall_mem_singleton.mpr rfl) (List.forall_mem_singleton.mpr rfl))
    apply Relation.EqvGen.trans _ (other ++ ['\n'])
    · exact .rel _ _ (.carriageReturn ("# one\n".toList ++ (['\u00a0'] ++ close ++ [' '])) [])
    · exact .rel _ _ (.endOfText other)
  have htrace : IsTraceOf text [e] := by
    unfold IsTraceOf
    decide +kernel
  obtain ⟨-, hretouched, hentries⟩ := read_of_retouched
  obtain ⟨hread, -, hreported⟩ := hentries printer session
  refine ⟨hchain, hretouched text other hchain, htrace, ?_, ?_⟩
  · rw [(hread text [e] htrace).1, hreported]
  · decide +kernel

end Trace

end TcpJournal
