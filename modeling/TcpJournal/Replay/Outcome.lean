import TcpJournal.Config
import TcpJournal.Delivery.Sink
import TcpJournal.Host
import TcpJournal.Replay.Arguments
import TcpJournal.Replay.Pipeline
import TcpJournal.Source

/-!
# The outcome of a replay

The journal's command line: it reads a configuration and a trace and delivers a
record for each connection that the trace closes.  Whatever is wrong with the
configuration, the format or the input is found before any event is handled.
The process ends with status 0 after a whole trace, 1 after an error, 2 for a
wrong command line and 101 when a record has no text.

The platform that runs commands is a parameter.  Left out are the interruption by a
signal, the log of a verbose replay, and the account of what is wrong with a
document, which follows the message for a configuration or a trace line that cannot
be read.
-/

namespace TcpJournal

/-- Why a replay fails. -/
inductive ReplayError where
  | start (cause : StartError)
  | configuration
  | file (cause : FileError)
  | trace (cause : ReadError)
  deriving DecidableEq, Repr

namespace ReplayError

/-- The message for an error, up to the account of what is wrong with a
document. -/
def message : ReplayError → String
  | start cause => cause.message
  | configuration => "invalid configuration"
  | file cause => "i/o error: " ++ cause.numbered
  | trace cause => cause.message

end ReplayError

/-- What a replay finds around it. -/
structure Surroundings where
  words : List String
  defaultFormat : Option String
  source : String → Except FileError Source
  standardInput : Bytes

/-- What a replay leaves behind. -/
structure ReplayOutcome where
  status : Nat
  output : Bytes
  error : Option ReplayError
  deriving DecidableEq, Repr

namespace Replay

/-- One line of the keyword list. -/
def keywordLine (k : Keyword) : List Char :=
  let column (width : Nat) (text : String) : List Char :=
    text.toList ++ List.replicate (width - text.length) ' '
  column 16 k.form ++ ' ' :: column 14 k.usage.kind.name ++ ' ' :: k.description.toList

/-- The list of the standard keywords. -/
def keywordList : Bytes :=
  let title := "keyword table v".toList ++ Decimal.digits Vocabulary.version
  let lines := title :: Vocabulary.standard.keywords.map keywordLine
  lines.flatMap fun line => Bytes.ofText line ++ [Bytes.newline]

/-- What a path leads to. -/
def openPath (s : Surroundings) (path : String) : Except ReplayError Source :=
  match s.source path with
  | .ok source => .ok source
  | .error e => .error (.file e)

/-- The configuration in a source; one that cannot be read is no configuration. -/
def configurationIn (s : Surroundings) (source : Source) : Except ReplayError Config :=
  match (source.content s.standardInput).toOption.bind Config.parse? with
  | some config => .ok config
  | none => .error .configuration

/-- A configuration with the command line's options in its place. -/
def withOptions (s : Surroundings) (a : Arguments) (config : Config) : Config :=
  let format := (a.format.orElse fun _ => s.defaultFormat).getD config.format
  let destination := match a.command with
    | some command => .command ⟨command, a.user⟩
    | none => config.destination
  ⟨format, destination⟩

/-- The configuration from a file, if one is named, with the command line's
options in its place, and the surroundings that are left behind it: a standard
input that has been read is empty. -/
def configuration (s : Surroundings) (a : Arguments) :
    Except ReplayError (Config × Surroundings) := do
  match a.config with
  | none => return (withOptions s a Config.standard, s)
  | some path =>
    let source ← openPath s path
    let config ← configurationIn s source
    let left := if source = .standardInput then { s with standardInput := [] } else s
    return (withOptions s a config, left)

/-- The trace to replay, or why it cannot be read. -/
def input (s : Surroundings) (a : Arguments) : Except ReplayError (Except FileError Bytes) := do
  let source ← match a.input with
    | some path => openPath s path
    | none => .ok .standardInput
  return source.content s.standardInput

section Platform

variable (platform : CommandPlatform ρ)

/-- The sink of a destination, before the first record. -/
def sink : Destination → Sink ρ
  | .standardOutput => .stream (.unlimited [])
  | .command invocation => .command invocation platform.fresh

/-- The session and the trace of a command line. -/
def prepare (s : Surroundings) (a : Arguments) :
    Except ReplayError (Session (Sink ρ) × Except FileError Bytes) := do
  let (config, s) ← configuration s a
  match Format.compile .standard config.format with
  | .error cause => .error (.start (.format cause))
  | .ok program =>
    let stream ← input s a
    return (.start program (sink platform config.destination), stream)

/-- The outcome of a replay that ended. -/
def outcome (session : Session (Sink ρ)) (finished : ReplayEnd) : ReplayOutcome :=
  let output := platform.output (session.finish finished.reason?).printer
  match finished with
  | .exhausted => ⟨0, output, none⟩
  | .inputFailed cause => ⟨1, output, some (.trace cause)⟩
  | .abandoned => ⟨101, output, none⟩

/-- Run the command line on a platform. -/
def runOn (s : Surroundings) : ReplayOutcome :=
  match Arguments.parse? s.words with
  | none => ⟨2, [], none⟩
  | some a =>
    if a.listKeywords then ⟨0, keywordList, none⟩
    else
      match prepare platform s a with
      | .error e => ⟨1, [], some e⟩
      | .ok (session, .error e) => outcome platform session (.inputFailed (.unreadable e))
      | .ok (session, .ok stream) =>
        let printer := Sink.printer platform.toRunner
        let (session, finished) := Pipeline.sequential printer session stream
        outcome platform session finished

end Platform

end Replay

end TcpJournal
