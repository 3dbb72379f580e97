import TcpJournal.Replay

/-!
# The command line program

Reads the files that the arguments name, or the standard input, runs the
replay, and writes what it leaves behind.
-/

open TcpJournal

/-- The number by which the system knows an error. -/
def errorNumber : IO.Error → Nat
  | .noFileOrDirectory _ code _ | .inappropriateType _ code _ | .permissionDenied _ code _
  | .otherError code _ | .resourceExhausted _ code _ | .invalidArgument _ code _
  | .unsupportedOperation code _ => code.toNat
  | _ => FileError.invalidArgument.number

/-- What a path leads to. -/
def openSource (path : String) : IO (Except FileError Source) :=
  try
    let bytes ← IO.FS.readBinFile path
    return .ok (.file bytes.toList)
  catch e =>
    match FileError.ofNumber? (errorNumber e) with
    | some .isDirectory => return .ok .directory
    | some cause => return .error cause
    | none => return .error .notFound

/-- The bytes of the standard input up to its end. -/
def readStandardInput : IO Bytes := do
  let bytes ← (← IO.getStdin).readBinToEnd
  return bytes.toList

/-- What a replay with the given words finds around it. -/
def surroundings (words : List String) : IO Surroundings := do
  let a := (Arguments.parse? words).getD Arguments.none
  let paths := a.config.toList ++ a.input.toList
  let sources ← paths.mapM fun path => do return (path, ← openSource path)
  let source (path : String) : Except FileError Source :=
    (sources.lookup path).getD (.error .notFound)
  let format ← IO.getEnv "CONNLOG_FORMAT"
  let standardInput ← if a.input.isNone && !a.listKeywords then readStandardInput else pure []
  return ⟨words, format, source, standardInput⟩

/-- Run a replay and write its output. -/
def main (words : List String) : IO UInt32 := do
  let outcome := Replay.run (← surroundings words)
  let out ← IO.getStdout
  out.write ⟨outcome.output.toArray⟩
  out.flush
  match outcome.error with
  | some e => (← IO.getStderr).putStrLn ("connlog-replay: " ++ e.message)
  | none => pure ()
  return UInt32.ofNat outcome.status
