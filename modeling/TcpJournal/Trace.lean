import TcpJournal.FileError
import TcpJournal.Lines
import TcpJournal.Trace.Line

/-!
# Traces

A trace is a byte stream of lines, each ended by a newline with an optional
carriage return, the last one perhaps not ended.  Lines that are blank or start
with `#` carry no event.  Reading goes on after a bad line; a line that is not
UTF-8 is an error of the stream, and only lines that could be read are counted.

An error tells which line is bad.  The account of what is wrong within the line,
which follows the number in a message, is left out.  A stream is there as a whole:
it may be unreadable from its start, but it does not break off between two lines.
-/

namespace TcpJournal

/-- Why an event could not be read. -/
inductive ReadError where
  | unreadable (cause : FileError)
  | notText
  | badLine (number : Nat)
  deriving DecidableEq, Repr

namespace ReadError

/-- The message for an error, up to the account of what is wrong with a line. -/
def message : ReadError → String
  | unreadable cause => "failed to read trace: " ++ cause.numbered
  | notText => "failed to read trace: stream did not contain valid UTF-8"
  | badLine number => "trace line " ++ String.ofList (Decimal.digits number)

end ReadError

namespace Trace

/-- The lines of a stream without their ends. -/
def physicalLines : Bytes → List Bytes
  | [] => []
  | b :: rest =>
    if b = Bytes.newline then [] :: physicalLines rest
    else
      match physicalLines rest with
      | [] => [[b]]
      | line :: lines => (b :: line) :: lines

/-- A trimmed line that carries an event. -/
def isSignificant (text : List Char) : Bool :=
  text ≠ [] && text.head? ≠ some '#'

/-- The number of a line, counted if it could be read, and what it carries. -/
def readLine (number : Nat) (line : Bytes) : Nat × Option (Except ReadError Event) :=
  match (Bytes.withoutReturn line).toText? with
  | none => (number, some (.error .notText))
  | some text =>
    let text := Text.trim text
    if isSignificant text then
      match parseLine? text with
      | some event => (number + 1, some (.ok event))
      | none => (number + 1, some (.error (.badLine (number + 1))))
    else (number + 1, none)

/-- A reader of a trace: the lines that are left and the number of the last line
read. -/
structure Reader where
  lines : List Bytes
  number : Nat
  deriving DecidableEq, Repr

namespace Reader

/-- A reader at the start of a stream. -/
def ofBytes (stream : Bytes) : Reader := ⟨physicalLines stream, 0⟩

/-- The next event or error among lines, and the reader after it. -/
def nextIn : List Bytes → Nat → Option (Except ReadError Event) × Reader
  | [], number => (none, ⟨[], number⟩)
  | line :: rest, number =>
    match readLine number line with
    | (number, some item) => (some item, ⟨rest, number⟩)
    | (number, none) => nextIn rest number

/-- The next event or error of a reader, unless the stream has ended. -/
def next (reader : Reader) : Option (Except ReadError Event) × Reader :=
  nextIn reader.lines reader.number

/-- Everything that lines hold: each event or error with the line number after
it, and the line number at the end. -/
def itemsIn : List Bytes → Nat → List (Nat × Except ReadError Event) × Nat
  | [], number => ([], number)
  | line :: rest, number =>
    match readLine number line with
    | (number, some item) =>
      let (items, last) := itemsIn rest number
      ((number, item) :: items, last)
    | (number, none) => itemsIn rest number

/-- Everything that a reader will find. -/
def items (reader : Reader) : List (Nat × Except ReadError Event) × Nat :=
  itemsIn reader.lines reader.number

end Reader

end Trace

end TcpJournal
