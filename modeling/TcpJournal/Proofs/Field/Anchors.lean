import Mathlib.Data.List.Induction
import Mathlib.Data.List.TakeWhile
import TcpJournal.Field
import TcpJournal.Proofs.Instant.Order

/-!
# Anchors of spans

A span keeps its anchors step by step.  Told from the history of the
connection, each anchor is the time of the first or of the latest event of some
kinds (`Span.anchorsOf`).  The one exception is the request before the first
answer, which is sought in the events before any response.

In a history whose times do not decrease, first events come before latest ones
and a request before the first answer comes before that answer.
-/

namespace TcpJournal

namespace Event

/-- The time of the first event of some kinds. -/
def firstTime (kinds : List ActivityKind) (events : List Event) : Option Instant :=
  (events.find? fun e => e.kind ∈ kinds).map time

/-- The time of the latest event of some kinds. -/
def latestTime (kinds : List ActivityKind) (events : List Event) : Option Instant :=
  (events.reverse.find? fun e => e.kind ∈ kinds).map time

theorem firstTime_concat (kinds : List ActivityKind) (past : List Event) (e : Event) :
    firstTime kinds (past ++ [e]) =
      if e.kind ∈ kinds then some ((firstTime kinds past).getD e.time)
      else firstTime kinds past := by
  rw [firstTime, firstTime, List.find?_append]
  cases past.find? fun e => e.kind ∈ kinds with
  | none => by_cases h : e.kind ∈ kinds <;> simp [h]
  | some first => simp

theorem latestTime_concat (kinds : List ActivityKind) (past : List Event) (e : Event) :
    latestTime kinds (past ++ [e]) =
      if e.kind ∈ kinds then some e.time else latestTime kinds past := by
  rw [latestTime, latestTime, List.reverse_concat, List.find?_cons]
  by_cases h : e.kind ∈ kinds <;> simp [h]

theorem exists_of_firstTime_eq_some {kinds : List ActivityKind} {events : List Event}
    {t : Instant} (h : firstTime kinds events = some t) :
    ∃ e ∈ events, e.kind ∈ kinds ∧ e.time = t := by
  obtain ⟨e, he, rfl⟩ := Option.map_eq_some_iff.mp h
  exact ⟨e, List.mem_of_find?_eq_some he, by simpa using List.find?_some he, rfl⟩

theorem exists_of_latestTime_eq_some {kinds : List ActivityKind} {events : List Event}
    {t : Instant} (h : latestTime kinds events = some t) :
    ∃ e ∈ events, e.kind ∈ kinds ∧ e.time = t := by
  obtain ⟨e, he, hkind, htime⟩ := exists_of_firstTime_eq_some h
  exact ⟨e, List.mem_reverse.mp he, hkind, htime⟩

theorem firstTime_eq_none_iff {kinds : List ActivityKind} {events : List Event} :
    firstTime kinds events = none ↔ ∀ e ∈ events, e.kind ∉ kinds := by
  simp [firstTime]

/-- The first event of some kinds comes before the latest one. -/
theorem firstTime_le_latestTime {kinds : List ActivityKind} {events : List Event}
    {first latest : Instant} (hsorted : events.Pairwise fun a b => a.time ≤ b.time)
    (hfirst : firstTime kinds events = some first)
    (hlatest : latestTime kinds events = some latest) : first ≤ latest := by
  obtain ⟨a, ha, rfl⟩ := Option.map_eq_some_iff.mp hfirst
  obtain ⟨b, hb, hkind, rfl⟩ := exists_of_latestTime_eq_some hlatest
  obtain ⟨-, before, after, rfl, hbefore⟩ := List.find?_eq_some_iff_append.mp ha
  rcases List.mem_append.mp hb with hmem | hmem
  · -- No event of these kinds stands in front of the first one.
    have hno := hbefore b hmem
    simp [hkind] at hno
  · rcases List.mem_cons.mp hmem with rfl | hafter
    · exact Instant.le_refl _
    · exact (List.pairwise_cons.mp (List.pairwise_append.mp hsorted).2.1).1 b hafter

/-- The events of a connection before its first response. -/
def beforeResponse (events : List Event) : List Event :=
  events.takeWhile fun e => e.kind ≠ .response

theorem kind_ne_response_of_firstTime_eq_none {events : List Event}
    (h : firstTime [.response] events = none) : ∀ e ∈ events, e.kind ≠ .response := by
  simpa using firstTime_eq_none_iff.mp h

theorem beforeResponse_of_none {events : List Event} (h : firstTime [.response] events = none) :
    beforeResponse events = events :=
  List.takeWhile_eq_self_iff.mpr (by simpa using kind_ne_response_of_firstTime_eq_none h)

theorem beforeResponse_concat_of_none {past : List Event}
    (h : firstTime [.response] past = none) (e : Event) :
    beforeResponse (past ++ [e]) = past ++ beforeResponse [e] :=
  List.takeWhile_append_of_pos (by simpa using kind_ne_response_of_firstTime_eq_none h)

theorem beforeResponse_concat_of_some {past : List Event} {t : Instant}
    (h : firstTime [.response] past = some t) (e : Event) :
    beforeResponse (past ++ [e]) = beforeResponse past := by
  obtain ⟨r, hr, hkind, -⟩ := exists_of_firstTime_eq_some h
  have hlength : (beforeResponse past).length ≠ past.length := by
    intro hlength
    have hall := List.IsPrefix.eq_of_length (List.takeWhile_prefix _) hlength
    have hno := List.takeWhile_eq_self_iff.mp hall r hr
    simp [List.mem_singleton.mp hkind] at hno
  unfold beforeResponse at hlength ⊢
  rw [List.takeWhile_append, if_neg hlength]

/-- What stands before the first response has happened before it. -/
theorem time_le_firstTime_response {events : List Event} {e : Event} {t : Instant}
    (hsorted : events.Pairwise fun a b => a.time ≤ b.time) (he : e ∈ beforeResponse events)
    (h : firstTime [.response] events = some t) : e.time ≤ t := by
  obtain ⟨r, hr, hkind, rfl⟩ := exists_of_firstTime_eq_some h
  have hparts : beforeResponse events ++ events.dropWhile (fun e => e.kind ≠ .response) = events :=
    List.takeWhile_append_dropWhile
  rw [← hparts] at hsorted hr
  rcases List.mem_append.mp hr with hbefore | hafter
  · have hno := List.mem_takeWhile_imp hbefore
    simp [List.mem_singleton.mp hkind] at hno
  · exact (List.pairwise_append.mp hsorted).2.2 e he r hafter

end Event

namespace Span

open Event

/-- The anchors of a span, told from the history of a connection. -/
def anchorsOf (span : Span) (events : List Event) : Anchors :=
  match span with
  | .requestPhase => ⟨firstTime [.request] events, latestTime [.request] events⟩
  | .latency => ⟨latestTime [.opened, .request] events, latestTime [.response] events⟩
  | .firstAnswer =>
    ⟨latestTime [.request] (beforeResponse events), firstTime [.response] events⟩
  | .responsePhase => ⟨firstTime [.response] events, latestTime [.response] events⟩
  | .idleBefore => ⟨latestTime [.opened] events, firstTime [.request] events⟩
  | .idleAfter => ⟨latestTime [.response] events, none⟩
  | .lingering =>
    ⟨latestTime [.opened, .request, .response] events, latestTime [.closed] events⟩
  | .handshake => ⟨firstTime [.opening] events, latestTime [.opened] events⟩

theorem observe_firstAnswer_anchorsOf (past : List Event) (e : Event) :
    Span.firstAnswer.observe (Span.firstAnswer.anchorsOf past) e.kind e.time =
      Span.firstAnswer.anchorsOf (past ++ [e]) := by
  cases h : firstTime [.response] past with
  | none =>
    have hlast : ∀ e : Event, beforeResponse [e] = if e.kind = .response then [] else [e] := by
      intro e
      by_cases hkind : e.kind = .response <;> simp [beforeResponse, hkind]
    cases hkind : e.kind <;>
      simp [anchorsOf, observe, Anchors.startLatest, Anchors.stopFirst, hkind, h, hlast,
        firstTime_concat, latestTime_concat, beforeResponse_of_none h,
        beforeResponse_concat_of_none h]
  | some t =>
    cases hkind : e.kind <;>
      simp [anchorsOf, observe, Anchors.stopFirst, hkind, h, firstTime_concat,
        beforeResponse_concat_of_some h]

/-- One more event moves the anchors as the history tells. -/
theorem observe_anchorsOf (span : Span) (past : List Event) (e : Event) :
    span.observe (span.anchorsOf past) e.kind e.time = span.anchorsOf (past ++ [e]) := by
  cases span with
  | firstAnswer => exact observe_firstAnswer_anchorsOf past e
  | requestPhase | responsePhase | latency | idleBefore | idleAfter | lingering | handshake =>
    cases hkind : e.kind <;>
      simp [anchorsOf, observe, Anchors.startLatest, Anchors.startFirst, Anchors.stopLatest,
        Anchors.stopFirst, hkind, firstTime_concat, latestTime_concat]

/-- A span is written with a minus sign if its end lies before its start by a
microsecond or more. -/
theorem head?_text_eq_minus_iff {span : Span} {a : Anchors} {written : Instant} :
    (span.text a written).head? = some '-' ↔
      ∃ start stop, a.start = some start ∧ span.stopAt a written = some stop ∧
        Instant.nanosBetween start stop ≤ -1000 := by
  have hmissing : span.missingText.head? ≠ some '-' := by
    cases span with
    | idleBefore | idleAfter | lingering => decide
    | requestPhase | latency | firstAnswer | responsePhase | handshake =>
      rw [missingText, Ne, Instant.head?_durationText_iff]
      exact Bool.false_ne_true
  unfold text
  cases hstart : a.start with
  | none => simpa using hmissing
  | some start =>
    cases hstop : span.stopAt a written with
    | none => simpa using hmissing
    | some stop =>
      simpa using Instant.head?_durationText_iff.trans Instant.isNegative_elapsed_iff

end Span

namespace Field

/-- The anchors of a span after events are told by these events. -/
theorem observeAll_span (span : Span) (events : List Event) :
    (start (.span span)).observeAll events = .span span (span.anchorsOf events) := by
  induction events using List.reverseRecOn with
  | nil => cases span <;> rfl
  | append_singleton past e ih =>
    have hlast : (start (.span span)).observeAll (past ++ [e]) =
        ((start (.span span)).observeAll past).observe e := List.foldl_append
    rw [hlast, ih, ← Span.observe_anchorsOf]
    rfl

end Field

end TcpJournal
