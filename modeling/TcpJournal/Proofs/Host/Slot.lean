import TcpJournal.Host

/-!
# The slot of a process

Callers start sessions, hand events to them and end them, in any order and with
any tickets.  An account follows a process through such a sequence of uses and
keeps, from the answers alone, what the callers hold: a session for every
ticket handed out and not yet handed back.

The main statement (`SlotAccount.Orderly`) says that after every sequence of
uses at most one session is live, that the slot is taken exactly while one is,
and what a start or an end does to the slot then.
-/

namespace TcpJournal

/-- One use of a process's slot, by whichever caller. -/
inductive SlotUse (σ : Type) where
  | start (program : Program) (state : σ)
  | startFormat (v : Vocabulary) (format : String) (state : σ)
  | handle (ticket : Nat) (e : Event)
  | shutdown (ticket : Nat) (reason : EndReason)
  | drop (ticket : Nat)

/-- A session as its caller knows it: the ticket, what it was started with and
the events handed to it. -/
structure Holding (σ : Type) where
  ticket : Nat
  program : Program
  state : σ
  events : List Event

namespace Holding

/-- The session that a holding stands for. -/
def session (printer : Printer σ) (holding : Holding σ) : Session σ :=
  (Session.start holding.program holding.state).handleAll printer holding.events

/-- The holding after an event for a ticket. -/
def handed (holding : Holding σ) (ticket : Nat) (e : Event) : Holding σ :=
  if holding.ticket = ticket then { holding with events := holding.events ++ [e] } else holding

@[simp] theorem ticket_handed (holding : Holding σ) (ticket : Nat) (e : Event) :
    (holding.handed ticket e).ticket = holding.ticket := by
  unfold handed
  split <;> rfl

/-- An event reaches the session whose ticket it names, and no other. -/
theorem session_handed
    (printer : Printer σ) (holding : Holding σ) (ticket : Nat) (e : Event) :
    (holding.handed ticket e).session printer =
      if holding.ticket = ticket then (holding.session printer).handle printer e
      else holding.session printer := by
  by_cases h : holding.ticket = ticket
  · simp [handed, h, session, Session.handleAll, List.foldl_append]
  · simp [handed, h]

end Holding

/-- A process together with what its callers hold, the latest first. -/
structure SlotAccount (σ : Type) where
  host : Host σ
  held : List (Holding σ)

namespace SlotAccount

/-- The account of a process whose slot has not been used. -/
def idle : SlotAccount σ := ⟨.idle, []⟩

/-- The account after the answer to a start.  Only a ticket is something to
hold. -/
def answered (account : SlotAccount σ) (program : Program) (state : σ)
    (answer : Host.Answer σ (Except StartError Nat)) : SlotAccount σ :=
  match answer.result with
  | .ok ticket => ⟨answer.host, ⟨ticket, program, state, []⟩ :: account.held⟩
  | .error _ => ⟨answer.host, account.held⟩

/-- The account after a ticket has been handed back. -/
def returned (account : SlotAccount σ) (ticket : Nat) (host : Host σ) : SlotAccount σ :=
  ⟨host, account.held.filter fun holding => holding.ticket ≠ ticket⟩

/-- The account after one more use. -/
def use (printer : Printer σ) (account : SlotAccount σ) : SlotUse σ → SlotAccount σ
  | .start program state => account.answered program state (account.host.start program state)
  | .startFormat v format state =>
    let answer := account.host.startFormat v format state
    match Format.compile v format with
    | .error _ => { account with host := answer.host }
    | .ok program => account.answered program state answer
  | .handle ticket e =>
    ⟨(account.host.handle printer ticket e).host, account.held.map (·.handed ticket e)⟩
  | .shutdown ticket reason =>
    account.returned ticket (account.host.shutdown ticket reason).host
  | .drop ticket => account.returned ticket (account.host.drop ticket).host

/-- The account after uses in order. -/
def run (printer : Printer σ) (account : SlotAccount σ) (uses : List (SlotUse σ)) :
    SlotAccount σ :=
  uses.foldl (use printer) account

/-- An account in which nobody holds a session and the slot is free, or one
caller holds the only session and the slot is taken. -/
inductive Sound (printer : Printer σ) : SlotAccount σ → Prop where
  | free (nextTicket : Nat) : Sound printer ⟨⟨false, [], nextTicket⟩, []⟩
  | taken (holding : Holding σ) (nextTicket : Nat) :
    Sound printer
      ⟨⟨true, [(holding.ticket, holding.session printer)], nextTicket⟩, [holding]⟩

end SlotAccount

namespace Host

theorem start_of_active {host : Host σ} (h : host.active = true) (program : Program) (state : σ) :
    host.start program state = ⟨.error .slotTaken, [], host⟩ :=
  if_pos h

theorem start_of_not_active
    {host : Host σ} (h : host.active = false) (program : Program) (state : σ) :
    host.start program state =
      ⟨.ok host.nextTicket, [.started program.size],
        ⟨true, (host.nextTicket, .start program state) :: host.live, host.nextTicket + 1⟩⟩ :=
  if_neg (by simp [h])

/-- A format that does not compile is reported before the slot is looked at. -/
theorem startFormat_of_error
    {v : Vocabulary} {format : String} {cause : CompileError}
    (h : Format.compile v format = .error cause) (host : Host σ) (state : σ) :
    host.startFormat v format state = ⟨.error (.format cause), [], host⟩ := by
  rw [startFormat, h]

theorem startFormat_of_ok
    {v : Vocabulary} {format : String} {program : Program}
    (h : Format.compile v format = .ok program) (host : Host σ) (state : σ) :
    host.startFormat v format state =
      { host.start program state with
        notices := .compiled program.size :: (host.start program state).notices } := by
  rw [startFormat, h]

theorem session?_singleton
    (active : Bool) (held : Nat) (session : Session σ) (nextTicket ticket : Nat) :
    session? ⟨active, [(held, session)], nextTicket⟩ ticket =
      if held = ticket then some session else none := by
  by_cases h : held = ticket
  · simp [session?, h]
  · simp [session?, h]

theorem released_singleton
    (active : Bool) (ticket : Nat) (session : Session σ) (nextTicket : Nat) :
    released ⟨active, [(ticket, session)], nextTicket⟩ ticket = ⟨false, [], nextTicket⟩ := by
  simp [released]

/-- Ending a session leaves the same process whether or not a reason is given. -/
theorem host_shutdown (host : Host σ) (ticket : Nat) (reason : EndReason) :
    (host.shutdown ticket reason).host = (host.drop ticket).host := by
  unfold shutdown drop
  cases host.session? ticket with
  | none => rfl
  | some session => rfl

/-- A shutdown answers with the counters of the session that it ends. -/
theorem result_shutdown
    {host : Host σ} {ticket : Nat} {session : Session σ}
    (h : host.session? ticket = some session) (reason : EndReason) :
    (host.shutdown ticket reason).result = some session.tally := by
  rw [shutdown, h]
  rfl

end Host

namespace SlotAccount

theorem use_startFormat_of_error
    {v : Vocabulary} {format : String} {cause : CompileError}
    (h : Format.compile v format = .error cause)
    (printer : Printer σ) (account : SlotAccount σ) (state : σ) :
    account.use printer (.startFormat v format state) = account := by
  simp only [use, h, Host.startFormat_of_error h]

theorem use_startFormat_of_ok
    {v : Vocabulary} {format : String} {program : Program}
    (h : Format.compile v format = .ok program)
    (printer : Printer σ) (account : SlotAccount σ) (state : σ) :
    account.use printer (.startFormat v format state) =
      account.use printer (.start program state) := by
  simp only [use, h, Host.startFormat_of_ok h, answered]

theorem use_shutdown
    (printer : Printer σ) (account : SlotAccount σ) (ticket : Nat) (reason : EndReason) :
    account.use printer (.shutdown ticket reason) = account.use printer (.drop ticket) := by
  simp only [use, Host.host_shutdown]

namespace Sound

variable {printer : Printer σ} {account : SlotAccount σ}

theorem idle (printer : Printer σ) : Sound printer (.idle : SlotAccount σ) := .free 0

/-- A start fills a free slot and leaves a taken one. -/
theorem use_start (h : account.Sound printer) (program : Program) (state : σ) :
    (account.use printer (.start program state)).Sound printer := by
  cases h with
  | free nextTicket => exact .taken ⟨nextTicket, program, state, []⟩ (nextTicket + 1)
  | taken holding nextTicket => exact .taken holding nextTicket

/-- An event changes the live session only if it comes with its ticket. -/
theorem use_handle (h : account.Sound printer) (ticket : Nat) (e : Event) :
    (account.use printer (.handle ticket e)).Sound printer := by
  cases h with
  | free nextTicket => exact .free nextTicket
  | taken holding nextTicket =>
    have hsession := holding.session_handed printer ticket e
    have htaken := @Sound.taken σ printer (holding.handed ticket e) nextTicket
    by_cases hticket : holding.ticket = ticket
    · rw [if_pos hticket] at hsession
      simpa [use, Host.handle, Host.session?_singleton, Host.update, hticket, hsession,
        Session.handle] using htaken
    · rw [if_neg hticket] at hsession
      simpa [use, Host.handle, Host.session?_singleton, hticket, hsession] using htaken

/-- A drop frees the slot only if it comes with the live session's ticket. -/
theorem use_drop (h : account.Sound printer) (ticket : Nat) :
    (account.use printer (.drop ticket)).Sound printer := by
  cases h with
  | free nextTicket => exact .free nextTicket
  | taken holding nextTicket =>
    by_cases hticket : holding.ticket = ticket
    · subst hticket
      simpa [use, returned, Host.drop, Host.session?_singleton, Host.released_singleton] using
        Sound.free nextTicket
    · simpa [use, returned, Host.drop, Host.session?_singleton, hticket] using
        Sound.taken holding nextTicket

theorem use (h : account.Sound printer) (next : SlotUse σ) :
    (account.use printer next).Sound printer := by
  cases next with
  | start program state => exact h.use_start program state
  | startFormat v format state =>
    cases hcompile : Format.compile v format with
    | error cause => rwa [use_startFormat_of_error hcompile]
    | ok program =>
      rw [use_startFormat_of_ok hcompile]
      exact h.use_start program state
  | handle ticket e => exact h.use_handle ticket e
  | shutdown ticket reason =>
    rw [use_shutdown]
    exact h.use_drop ticket
  | drop ticket => exact h.use_drop ticket

theorem run (h : account.Sound printer) (uses : List (SlotUse σ)) :
    (account.run printer uses).Sound printer := by
  induction uses generalizing account with
  | nil => exact h
  | cons next uses ih => exact ih (h.use next)

end Sound

/-- What holds of a process and its callers at any time. -/
structure Orderly (printer : Printer σ) (account : SlotAccount σ) : Prop where
  /-- At most one session is live. -/
  length_live_le_one : account.host.live.length ≤ 1
  /-- The slot is taken exactly while a session is live. -/
  active_iff : account.host.active = true ↔ account.host.live ≠ []
  /-- The live sessions are those that callers hold, each as the events handed
  to it have left it. -/
  live_eq : account.host.live =
    account.held.map fun holding => (holding.ticket, holding.session printer)
  /-- A session starts exactly if none is live. -/
  start_iff : ∀ program state,
    (∃ ticket, (account.host.start program state).result = .ok ticket) ↔ account.host.live = []
  /-- A start is refused otherwise, and the process stays as it was. -/
  start_refused : ∀ program state, account.host.live ≠ [] →
    account.host.start program state = ⟨.error .slotTaken, [], account.host⟩
  /-- A session that starts is alone, has counted nothing and has no open flow. -/
  start_fresh : ∀ program state ticket, (account.host.start program state).result = .ok ticket →
    ∃ session, (account.host.start program state).host.live = [(ticket, session)] ∧
      session.tally = ⟨0, 0, 0⟩ ∧ session.table.isEmpty = true
  /-- A format that does not compile is the error, whether or not a session is
  live, and the process stays as it was. -/
  startFormat_refused : ∀ v format state cause, Format.compile v format = .error cause →
    account.host.startFormat v format state = ⟨.error (.format cause), [], account.host⟩
  /-- A format that compiles starts a session as its program does. -/
  startFormat_compiled : ∀ v format state program, Format.compile v format = .ok program →
    (account.host.startFormat v format state).result =
        (account.host.start program state).result ∧
      (account.host.startFormat v format state).host = (account.host.start program state).host
  /-- A session that ends, for a reason or without one, leaves the slot free. -/
  ended : ∀ ticket session, account.host.session? ticket = some session →
    (account.host.drop ticket).host.live = [] ∧
      (account.host.drop ticket).host.active = false ∧
      ∀ reason, (account.host.shutdown ticket reason).host = (account.host.drop ticket).host ∧
        (account.host.shutdown ticket reason).result = some session.tally

namespace Sound

variable {printer : Printer σ} {account : SlotAccount σ}

theorem active_iff (h : account.Sound printer) :
    account.host.active = true ↔ account.host.live ≠ [] := by
  cases h with
  | free nextTicket => simp
  | taken holding nextTicket => simp

theorem start_refused (h : account.Sound printer) (hlive : account.host.live ≠ [])
    (program : Program) (state : σ) :
    account.host.start program state = ⟨.error .slotTaken, [], account.host⟩ :=
  Host.start_of_active (h.active_iff.mpr hlive) program state

theorem start_accepted (h : account.Sound printer) (hlive : account.host.live = [])
    (program : Program) (state : σ) :
    account.host.start program state =
      ⟨.ok account.host.nextTicket, [.started program.size],
        ⟨true, [(account.host.nextTicket, .start program state)],
          account.host.nextTicket + 1⟩⟩ := by
  have hactive : account.host.active = false := by
    rw [Bool.eq_false_iff]
    exact fun hactive => h.active_iff.mp hactive hlive
  rw [Host.start_of_not_active hactive, hlive]

/-- Ending the live session leaves the slot free. -/
theorem host_drop (h : account.Sound printer) {ticket : Nat} {session : Session σ}
    (hsession : account.host.session? ticket = some session) :
    (account.host.drop ticket).host = ⟨false, [], account.host.nextTicket⟩ := by
  unfold Host.drop
  rw [hsession]
  cases h with
  | free nextTicket => cases hsession
  | taken holding nextTicket =>
    rw [Host.session?_singleton] at hsession
    split at hsession
    case isTrue hticket =>
      subst hticket
      exact Host.released_singleton ..
    case isFalse => cases hsession

theorem orderly (h : account.Sound printer) : account.Orderly printer where
  length_live_le_one := by
    cases h with
    | free nextTicket => exact Nat.zero_le 1
    | taken holding nextTicket => exact Nat.le_refl 1
  active_iff := h.active_iff
  live_eq := by
    cases h with
    | free nextTicket => rfl
    | taken holding nextTicket => rfl
  start_iff program state := by
    by_cases hlive : account.host.live = []
    · simp [h.start_accepted hlive, hlive]
    · simp [h.start_refused hlive, hlive]
  start_refused program state hlive := h.start_refused hlive program state
  start_fresh program state ticket hresult := by
    by_cases hlive : account.host.live = []
    · rw [h.start_accepted hlive] at hresult ⊢
      obtain rfl := Except.ok.inj hresult
      exact ⟨.start program state, rfl, rfl, rfl⟩
    · rw [h.start_refused hlive] at hresult
      cases hresult
  startFormat_refused v format state cause hcompile :=
    Host.startFormat_of_error hcompile account.host state
  startFormat_compiled v format state program hcompile := by
    rw [Host.startFormat_of_ok hcompile]
    exact ⟨rfl, rfl⟩
  ended ticket session hsession := by
    rw [h.host_drop hsession]
    exact ⟨rfl, rfl, fun reason =>
      ⟨by rw [Host.host_shutdown, h.host_drop hsession], Host.result_shutdown hsession reason⟩⟩

end Sound

/-- After every sequence of uses the process is in order: callers, however they
interleave, share one slot that is neither lost nor handed out twice. -/
theorem orderly_run (printer : Printer σ) (uses : List (SlotUse σ)) :
    ((idle : SlotAccount σ).run printer uses).Orderly printer :=
  ((Sound.idle printer).run uses).orderly

end SlotAccount

end TcpJournal
