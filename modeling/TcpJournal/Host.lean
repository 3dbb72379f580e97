import TcpJournal.Format.Compile
import TcpJournal.Session

/-!
# The host of sessions

One process hosts at most one session at a time.  Whoever starts a session
holds its ticket; until that session is shut down or dropped, every other
start is refused and changes nothing.  A format is compiled before the slot is
looked at, so a bad format is reported whether or not the slot is free.
-/

namespace TcpJournal

/-- Why a session does not start. -/
inductive StartError where
  | format (cause : CompileError)
  | slotTaken
  deriving DecidableEq, Repr

namespace StartError

/-- The message for an error. -/
def message : StartError → String
  | format cause => "invalid format: " ++ cause.message
  | slotTaken => "a coordinator is already active in this process"

end StartError

/-- The session slot of a process and the sessions that have not ended, each
under its ticket. -/
structure Host (σ : Type) where
  active : Bool
  live : List (Nat × Session σ)
  nextTicket : Nat

namespace Host

/-- A process without a session. -/
def idle : Host σ := ⟨false, [], 0⟩

/-- The session that a ticket stands for, unless it has ended. -/
def session? (host : Host σ) (ticket : Nat) : Option (Session σ) :=
  (host.live.find? fun entry => entry.1 = ticket).map Prod.snd

/-- What an operation on the slot answers, and what it tells. -/
structure Answer (σ : Type) (α : Type) where
  result : α
  notices : List Notice
  host : Host σ

/-- Claim the slot for a session of a program.  The answer is the ticket. -/
def start (host : Host σ) (program : Program) (printer : σ) : Answer σ (Except StartError Nat) :=
  if host.active then ⟨.error .slotTaken, [], host⟩
  else
    ⟨.ok host.nextTicket, [.started program.size],
      ⟨true, (host.nextTicket, .start program printer) :: host.live, host.nextTicket + 1⟩⟩

/-- Compile a format under a vocabulary and claim the slot for a session. -/
def startFormat (host : Host σ) (v : Vocabulary) (format : String) (printer : σ) :
    Answer σ (Except StartError Nat) :=
  match Format.compile v format with
  | .error cause => ⟨.error (.format cause), [], host⟩
  | .ok program =>
    let answer := host.start program printer
    { answer with notices := .compiled program.size :: answer.notices }

/-- A host without a ticket's session, its slot free. -/
def released (host : Host σ) (ticket : Nat) : Host σ :=
  { host with active := false, live := host.live.filter fun entry => entry.1 ≠ ticket }

/-- End a session without a reason. -/
def drop (host : Host σ) (ticket : Nat) : Answer σ Unit :=
  match host.session? ticket with
  | none => ⟨(), [], host⟩
  | some session => ⟨(), (session.finish none).notices, host.released ticket⟩

/-- End a session for a reason.  The answer is its counters. -/
def shutdown (host : Host σ) (ticket : Nat) (reason : EndReason) :
    Answer σ (Option Tally) :=
  match host.session? ticket with
  | none => ⟨none, [], host⟩
  | some session =>
    let remains := session.finish (some reason)
    ⟨some remains.tally, remains.notices, host.released ticket⟩

/-- A host with another state of a ticket's session. -/
def update (host : Host σ) (ticket : Nat) (session : Session σ) : Host σ :=
  { host with
    live := host.live.map fun entry => if entry.1 = ticket then (ticket, session) else entry }

/-- Hand an event to a ticket's session.  The answer is the fate of the record
of a flow that the event closed. -/
def handle (printer : Printer σ) (host : Host σ) (ticket : Nat) (e : Event) :
    Answer σ (Option Delivery) :=
  match host.session? ticket with
  | none => ⟨none, [], host⟩
  | some session =>
    let step := session.step printer e
    ⟨step.delivery, step.notices, host.update ticket step.session⟩

end Host

end TcpJournal
