import TcpJournal.Field

/-!
# Delivery of records

When a connection closes, its fields and the time of the close are handed to a
printer.  A printer renders the record and delivers it, or fails; a failure
concerns that one record only.  A record without text is never delivered: its
delivery is abandoned before the destination sees a byte.

The failures that streams and commands of this library run into have names; a
failure of any other stream or command comes with the words of its system.
-/

namespace TcpJournal

/-- Why a stream does not take bytes. -/
inductive WriteError where
  | diskFull
  | acceptsNothing
  | flushFailed
  | other (reason : String)
  deriving DecidableEq, Repr

namespace WriteError

/-- The message for an error. -/
def message : WriteError → String
  | diskFull => "disk full"
  | acceptsNothing => "failed to write whole buffer"
  | flushFailed => "flush failed"
  | other reason => reason

end WriteError

/-- Why a command did not take a record. -/
inductive CommandFailure where
  | refusedCall (call : Nat)
  | nulInCommand
  | exitStatus (status : Nat)
  | signal (number : Nat) (name : Option String)
  | other (reason : String)
  deriving DecidableEq, Repr

namespace CommandFailure

/-- The reason as it is reported. -/
def reason : CommandFailure → String
  | refusedCall call => "call " ++ String.ofList (Decimal.digits call)
  | nulInCommand => "nul byte found in provided data"
  | exitStatus status => "exited with exit status: " ++ String.ofList (Decimal.digits status)
  | signal number name =>
    "exited with signal: " ++ String.ofList (Decimal.digits number) ++
      (name.elim "" fun name => " (" ++ name ++ ")")
  | other reason => reason

end CommandFailure

/-- Why a record was not delivered. -/
inductive DeliveryError where
  | write (cause : WriteError)
  | command (command : String) (cause : CommandFailure)
  deriving DecidableEq, Repr

namespace DeliveryError

/-- The message for an error. -/
def message : DeliveryError → String
  | write cause => "failed to write record: " ++ cause.message
  | command line cause => "command '" ++ line ++ "' failed: " ++ cause.reason

end DeliveryError

/-- The fate of a record. -/
inductive Delivery where
  | delivered
  | failed (error : DeliveryError)
  | abandoned
  deriving DecidableEq, Repr

/-- A destination of records that keeps a state of type `σ`. -/
structure Printer (σ : Type) where
  print : List Field → Instant → σ → Delivery × σ

namespace Printer

/-- The printer that renders and sanitizes each record and passes it on. -/
def ofRecord (deliver : Bytes → σ → Except DeliveryError Unit × σ) : Printer σ where
  print fields written state :=
    match Field.record fields written with
    | none => (.abandoned, state)
    | some record =>
      match deliver record state with
      | (.ok (), state) => (.delivered, state)
      | (.error e, state) => (.failed e, state)

end Printer

end TcpJournal
