import TcpJournal.Proofs.Delivery.Failure
import TcpJournal.Proofs.Session.Transcript

/-!
# Lines behind failed records

A delivered record stands in the writer in full, with a newline behind it,
whatever other records did.  Whether it begins a line is another matter: a writer
that fails inside a record and works again later puts the next record behind the
fragment.

The receipts of a session tell what each call left in the writer.  The main
statement says which delivered records begin a line: all those with no fragment
right in front of them.
-/

namespace TcpJournal

namespace Bytes

/-- What is written behind these bytes begins a line. -/
def AtLineStart (bytes : Bytes) : Prop :=
  bytes = [] ∨ bytes.getLast? = some newline

theorem atLineStart_append_iff {earlier later : Bytes} (h : later ≠ []) :
    AtLineStart (earlier ++ later) ↔ later.getLast? = some newline := by
  obtain ⟨last, hlast⟩ := Option.ne_none_iff_exists'.mp (mt List.getLast?_eq_none_iff.mp h)
  simp [AtLineStart, h, hlast]

end Bytes

/-- What became of one call: the printer's answer, and the bytes that the call left
in the writer. -/
structure Receipt where
  answer : PrintAnswer
  left : Bytes
  deriving DecidableEq, Repr

namespace Receipt

/-- The latest receipt of a call that left any bytes. -/
def latestWriting? (receipts : List Receipt) : Option Receipt :=
  receipts.reverse.find? fun r => r.left ≠ []

/-- The printer failed inside a line: some bytes were left, and the last of them is no
newline. -/
structure IsFragment (r : Receipt) : Prop where
  isFailed : r.answer.isFailed = true
  left_ne_nil : r.left ≠ []
  getLast?_ne : r.left.getLast? ≠ some Bytes.newline

/-- What the answer of a printer says about the bytes that a call left. -/
structure Sound (r : Receipt) : Prop where
  left_isPrefix : r.left <+: r.answer.call.line
  of_delivered : r.answer.delivery = .delivered →
    r.left = r.answer.call.line ∧ ∃ record, r.answer.call.delivered? = some record
  of_abandoned : r.answer.delivery = .abandoned → r.left = []

/-- A call that ended inside a line has failed. -/
theorem Sound.isFragment {r : Receipt} (h : r.Sound) (hleft : r.left ≠ [])
    (hlast : r.left.getLast? ≠ some Bytes.newline) : r.IsFragment := by
  refine ⟨?_, hleft, hlast⟩
  cases hdelivery : r.answer.delivery with
  | delivered =>
    obtain ⟨hline, record, hrecord⟩ := h.of_delivered hdelivery
    rw [hline, PrintCall.line_of_delivered hrecord, List.getLast?_concat] at hlast
    exact absurd rfl hlast
  | failed error => rw [PrintAnswer.isFailed, hdelivery, Delivery.isFailed]
  | abandoned => exact absurd (h.of_abandoned hdelivery) hleft

theorem latestWriting?_concat (past : List Receipt) (r : Receipt) :
    latestWriting? (past ++ [r]) = if r.left = [] then latestWriting? past else some r := by
  rw [latestWriting?, List.reverse_concat, List.find?_cons, latestWriting?]
  by_cases h : r.left = [] <;> simp [h]

/-- Behind some receipts a line begins unless the latest bytes are a fragment. -/
theorem atLineStart_flatMap_left_iff {receipts : List Receipt} (h : ∀ r ∈ receipts, r.Sound) :
    Bytes.AtLineStart (receipts.flatMap left) ↔
      ¬∃ r, latestWriting? receipts = some r ∧ r.IsFragment := by
  induction receipts using List.reverseRecOn with
  | nil => simp [Bytes.AtLineStart, latestWriting?]
  | append_singleton past r ih =>
    obtain ⟨hpast, hlast⟩ := List.forall_mem_append.mp h
    have hsound : r.Sound := List.forall_mem_singleton.mp hlast
    rw [latestWriting?_concat, List.flatMap_append, List.flatMap_singleton]
    by_cases hleft : r.left = []
    · rw [hleft, List.append_nil, if_pos rfl]
      exact ih hpast
    · rw [if_neg hleft, Bytes.atLineStart_append_iff hleft]
      constructor
      · rintro hnewline ⟨fragment, hlatest, hfragment⟩
        cases hlatest
        exact hfragment.getLast?_ne hnewline
      · intro hno
        by_contra hnewline
        exact hno ⟨r, rfl, hsound.isFragment hleft hnewline⟩

end Receipt

namespace Writer

variable {ω : Type} (writer : Writer ω) (taken : ω → Bytes)

/-- The receipt of a call. -/
def receipt (state : ω) (call : PrintCall) : Receipt :=
  let printed := writer.printer.print call.fields call.written state
  ⟨⟨call, printed.1⟩, (taken printed.2).drop (taken state).length⟩

/-- The receipts of calls in order. -/
def receipts : ω → List PrintCall → List Receipt
  | _, [] => []
  | state, call :: rest =>
    writer.receipt taken state call ::
      receipts (writer.printer.print call.fields call.written state).2 rest

theorem receipts_concat (state : ω) (past : List PrintCall) (call : PrintCall) :
    writer.receipts taken state (past ++ [call]) =
      writer.receipts taken state past ++
        [writer.receipt taken (writer.printer.stateAfter state past) call] := by
  induction past generalizing state with
  | nil => rfl
  | cons first rest ih =>
    rw [List.cons_append, receipts, ih, receipts]
    rfl

variable {writer taken}

/-- What a call has left is behind what had been taken before. -/
theorem Honest.receipt (h : writer.Honest taken) (state : ω) (call : PrintCall) :
    (writer.receipt taken state call).Sound ∧
      taken (writer.printer.print call.fields call.written state).2 =
        taken state ++ (writer.receipt taken state call).left := by
  obtain ⟨left, hleft, htaken, hdelivered, habandoned⟩ := h.print call state
  have hreceipt : (writer.receipt taken state call).left = left := by
    simp only [Writer.receipt, htaken, List.drop_left]
  refine ⟨⟨?_, ?_, ?_⟩, ?_⟩
  · rwa [hreceipt]
  · rw [hreceipt]
    exact hdelivered
  · rw [hreceipt]
    exact habandoned
  · rw [htaken, hreceipt]

/-- The bytes in the writer are those that the calls have left, in order. -/
theorem Honest.receipts (h : writer.Honest taken) (state : ω) (calls : List PrintCall) :
    (∀ r ∈ writer.receipts taken state calls, r.Sound) ∧
      taken (writer.printer.stateAfter state calls) =
        taken state ++ (writer.receipts taken state calls).flatMap Receipt.left := by
  induction calls using List.reverseRecOn with
  | nil => exact ⟨List.forall_mem_nil _, (List.append_nil _).symm⟩
  | append_singleton past call ih =>
    obtain ⟨hpast, htaken⟩ := ih
    obtain ⟨hsound, hleft⟩ := h.receipt (writer.printer.stateAfter state past) call
    rw [receipts_concat, Printer.stateAfter_concat]
    refine ⟨List.forall_mem_append.mpr ⟨hpast, List.forall_mem_singleton.mpr hsound⟩, ?_⟩
    rw [hleft, htaken, List.flatMap_append, List.flatMap_singleton, List.append_assoc]

end Writer

namespace Session

variable {ω : Type} {writer : Writer ω} {taken : ω → Bytes}

/-- The receipts of a session carry the answers of its printer. -/
theorem map_answer_receipts (program : Program) (state : ω) (events : List Event) :
    (writer.receipts taken state (calls program events)).map Receipt.answer =
      transcript writer.printer program state events := by
  induction events using List.reverseRecOn with
  | nil => rfl
  | append_singleton past e ih =>
    by_cases h : e.kind = .closed
    · rw [calls_concat_of_closed program past h, Writer.receipts_concat, List.map_append, ih,
        transcript_concat_of_closed writer.printer program state past h, printer_handleAll]
      rfl
    · rw [calls_concat_of_not_closed program past h, ih,
        transcript_concat_of_not_closed writer.printer program state past h]

/-- A delivered record stands in the writer behind what the earlier calls have left,
with a newline behind it.  It begins a line unless the latest bytes in front of it
were left by a call that failed inside a line. -/
theorem beginsLine_iff_of_delivered (h : writer.Honest taken) {state : ω}
    (hempty : taken state = []) {program : Program} {events : List Event}
    {before after : List Receipt} {r : Receipt}
    (hreceipts : writer.receipts taken state (calls program events) = before ++ r :: after)
    (hdelivered : r.answer.delivery = .delivered) :
    transcript writer.printer program state events = (before ++ r :: after).map Receipt.answer ∧
      ∃ record, r.answer.call.delivered? = some record ∧
        taken ((start program state).handleAll writer.printer events).printer =
          before.flatMap Receipt.left ++ (record ++ [Bytes.newline]) ++
            after.flatMap Receipt.left ∧
        (Bytes.AtLineStart (before.flatMap Receipt.left) ↔
          ¬∃ fragment, Receipt.latestWriting? before = some fragment ∧ fragment.IsFragment) := by
  obtain ⟨hsound, htaken⟩ := h.receipts state (calls program events)
  rw [hreceipts] at hsound htaken
  obtain ⟨hbefore, hrest⟩ := List.forall_mem_append.mp hsound
  obtain ⟨hline, record, hrecord⟩ := (List.forall_mem_cons.mp hrest).1.of_delivered hdelivered
  refine ⟨?_, record, hrecord, ?_, Receipt.atLineStart_flatMap_left_iff hbefore⟩
  · rw [← map_answer_receipts, hreceipts]
  · rw [printer_handleAll, htaken, hempty, List.flatMap_append, List.flatMap_cons, hline,
      PrintCall.line_of_delivered hrecord]
    simp

end Session

/-! ## A writer that fails on schedule -/

/-- A stream whose next writes are fixed: each takes as many bytes as it is told, or
fails.  Behind these it takes everything. -/
structure ScriptedStream where
  written : Bytes
  script : List (Except WriteError Nat)
  deriving DecidableEq, Repr

/-- The writer of a scripted stream. -/
def Writer.scripted : Writer ScriptedStream where
  write bytes stream :=
    match stream.script with
    | [] => (.ok bytes.length, ⟨stream.written ++ bytes, []⟩)
    | .ok n :: rest => (.ok (min n bytes.length), ⟨stream.written ++ bytes.take n, rest⟩)
    | .error e :: rest => (.error e, ⟨stream.written, rest⟩)
  flush stream := (.ok (), stream)

theorem Writer.honest_scripted : scripted.Honest ScriptedStream.written where
  write_ok {bytes stream n later} h := by
    rcases stream with ⟨written, _ | ⟨_ | k, rest⟩⟩
    · cases h
      simp
    · cases h
    · cases h
      simp [List.take_eq_take_min]
  write_error {bytes stream e later} h := by
    rcases stream with ⟨written, _ | ⟨_ | k, rest⟩⟩
    · cases h
    · cases h
      rfl
    · cases h
  flush stream := rfl

namespace Session

/-- The first record is cut and the second stands behind the fragment, but the third
begins a line again. -/
theorem beginsLine_of_third_record :
    let id : Connection := ⟨.v4 0x0A000001 40000, .v4 0x0A000002 80⟩
    let program : Program := ⟨[⟨"status", none, .status⟩]⟩
    let events : List Event := List.replicate 3 ⟨id, .epoch, .closed []⟩
    let stream : ScriptedStream := ⟨[], [.ok 3, .error .diskFull]⟩
    let earlier := Bytes.ofString "unkunknown\n"
    ((start program stream).handleAll Writer.scripted.printer events).printer.written =
        earlier ++ Bytes.ofString "unknown\n" ∧
      Bytes.AtLineStart earlier := by
  intro id program events stream earlier
  let call : PrintCall := ⟨[.status .unknown], .epoch⟩
  let cut : Receipt := ⟨⟨call, .failed (.write .diskFull)⟩, Bytes.ofString "unk"⟩
  let whole : Receipt := ⟨⟨call, .delivered⟩, Bytes.ofString "unknown\n"⟩
  have hreceipts : Writer.scripted.receipts ScriptedStream.written stream (calls program events) =
      [cut, whole] ++ whole :: [] := by
    decide +kernel
  obtain ⟨-, record, hrecord, hwritten, hline⟩ :=
    beginsLine_iff_of_delivered Writer.honest_scripted rfl hreceipts rfl
  have hunknown : call.delivered? = some (Bytes.ofString "unknown") := by decide +kernel
  obtain rfl : Bytes.ofString "unknown" = record := Option.some.inj (hunknown.symm.trans hrecord)
  have hearlier : [cut, whole].flatMap Receipt.left = earlier := by decide +kernel
  have hlatest : Receipt.latestWriting? [cut, whole] = some whole := by decide +kernel
  constructor
  · rw [hwritten, hearlier]
    decide +kernel
  · rw [← hearlier, hline, hlatest]
    rintro ⟨fragment, hsame, hfragment⟩
    cases hsame
    exact hfragment.getLast?_ne (by decide +kernel)

/-- A writer that fails once inside a record and then works again is enough to put a
delivered record behind a fragment. -/
theorem not_forall_beginsLine :
    ¬∀ {ω : Type} (writer : Writer ω) (taken : ω → Bytes), writer.Honest taken →
      ∀ (program : Program) (state : ω) (events : List Event), taken state = [] →
        ∀ answer ∈ transcript writer.printer program state events, answer.delivery = .delivered →
          ∃ before record after, answer.call.delivered? = some record ∧
            taken ((start program state).handleAll writer.printer events).printer =
              before ++ (record ++ [Bytes.newline]) ++ after ∧
            Bytes.AtLineStart before := by
  intro h
  let id : Connection := ⟨.v4 0x0A000001 40000, .v4 0x0A000002 80⟩
  let program : Program := ⟨[.literal "> a"]⟩
  let events : List Event := List.replicate 2 ⟨id, .epoch, .closed []⟩
  let stream : ScriptedStream := ⟨[], [.ok 2, .error .diskFull]⟩
  let answer : PrintAnswer := ⟨⟨[.text "> a"], .epoch⟩, .delivered⟩
  have hanswer : answer ∈ transcript Writer.scripted.printer program stream events := by
    decide +kernel
  have hwritten : ((start program stream).handleAll Writer.scripted.printer events).printer.written =
      Bytes.ofString "> > a\n" := by
    decide +kernel
  have hdelivered : answer.call.delivered? = some (Bytes.ofString "> a") := by
    decide +kernel
  obtain ⟨before, record, after, hrecord, hparts, hstart⟩ :=
    h Writer.scripted _ Writer.honest_scripted program stream events rfl answer hanswer rfl
  obtain rfl : Bytes.ofString "> a" = record := Option.some.inj (hdelivered.symm.trans hrecord)
  rw [hwritten] at hparts
  rcases hstart with rfl | hnewline
  · -- The line would have to begin with the fragment.
    have hprefix : Bytes.ofString "> a" ++ [Bytes.newline] <+: Bytes.ofString "> > a\n" :=
      ⟨after, hparts.symm⟩
    exact absurd hprefix (by decide +kernel)
  · -- Only the two bytes of the fragment can stand in front of the line.
    have hlength : before.length ≤ 2 := by
      have htotal := congrArg List.length hparts
      rw [List.length_append, List.length_append] at htotal
      have hall : (Bytes.ofString "> > a\n").length = 6 := by decide +kernel
      have hline : (Bytes.ofString "> a" ++ [Bytes.newline]).length = 4 := by decide +kernel
      omega
    have hprefix : before <+: (Bytes.ofString "> > a\n").take 2 := by
      refine List.prefix_take_iff.mpr ⟨?_, hlength⟩
      rw [hparts, List.append_assoc]
      exact List.prefix_append _ _
    have hmem := hprefix.subset (List.mem_of_getLast? hnewline)
    exact absurd hmem (by decide +kernel)

end Session

end TcpJournal
