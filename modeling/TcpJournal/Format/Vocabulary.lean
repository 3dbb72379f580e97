import TcpJournal.Field

/-!
# The keyword vocabulary of format strings

A keyword names a column and says how its parameter is written: not at all, not
at all because the vocabulary fixes it, in parentheses, or optionally in
brackets.  A vocabulary holds at most one keyword of each name, in the order of
the names.

What a keyword stands for is a column, so every connection begins with a field
that has observed nothing.  A keyword whose fields begin with a state of their own
is left out.
-/

namespace TcpJournal

/-- What the parameter of a keyword has to be. -/
inductive ParameterKind where
  | text
  | timePattern
  deriving DecidableEq, Repr

namespace ParameterKind

/-- The parameter is of this kind. -/
def accepts : ParameterKind → String → Bool
  | .text, _ => true
  | .timePattern, parameter => (TimePattern.ofString parameter).isValid

end ParameterKind

/-- How a parameter becomes a column. -/
structure ColumnRule where
  column : String → Column

namespace ColumnRule

/-- The same column for every parameter. -/
def constant (column : Column) : ColumnRule := ⟨fun _ => column⟩

/-- The parameter itself as text. -/
def text : ColumnRule := ⟨.text⟩

/-- The time of the latest payload in a direction, the parameter being its
pattern. -/
def payloadTime (direction : Direction) : ColumnRule :=
  ⟨fun parameter => .payloadTime direction (.ofString parameter)⟩

/-- The time of writing, the parameter being its pattern. -/
def writtenTime : ColumnRule := ⟨fun parameter => .writtenTime (.ofString parameter)⟩

end ColumnRule

/-- How a keyword is written and what it stands for. -/
inductive Usage where
  | plain (column : Column)
  | preset (parameter : String) (rule : ColumnRule)
  | required (kind : ParameterKind) (rule : ColumnRule)
  | optional (kind : ParameterKind) (default : String) (rule : ColumnRule)

/-- The kinds of usage. -/
inductive UsageKind where
  | bareName
  | preset
  | mandatory
  | optional
  deriving DecidableEq, Repr

namespace UsageKind

/-- Every kind of usage. -/
def all : List UsageKind := [.bareName, .preset, .mandatory, .optional]

/-- The name of a kind. -/
def name : UsageKind → String
  | .bareName => "no-parameter"
  | .preset => "preset"
  | .mandatory => "mandatory"
  | .optional => "optional"

/-- The kind with a name. -/
def ofName? (name : String) : Option UsageKind :=
  all.find? fun kind => kind.name = name

end UsageKind

namespace Usage

/-- The kind of a usage. -/
def kind : Usage → UsageKind
  | plain _ => .bareName
  | preset .. => .preset
  | required .. => .mandatory
  | optional .. => .optional

end Usage

/-- A keyword of the format language. -/
structure Keyword where
  name : String
  usage : Usage
  description : String

namespace Keyword

/-- The keyword as it is written, with dots for a parameter. -/
def form (k : Keyword) : String :=
  match k.usage with
  | .plain _ | .preset .. => "%" ++ k.name
  | .required .. => "%" ++ k.name ++ "(...)"
  | .optional .. => "%" ++ k.name ++ "[...]"

end Keyword

/-- A set of keywords with distinct names, sorted by name. -/
structure Vocabulary where
  keywords : List Keyword

namespace Vocabulary

/-- The revision of the standard keywords. -/
def version : Nat := 1

/-- No keywords. -/
def empty : Vocabulary := ⟨[]⟩

/-- The keyword of a name. -/
def find? (v : Vocabulary) (name : String) : Option Keyword :=
  v.keywords.find? fun k => k.name = name

/-- A sorted list of keywords with one more, in place of the one of its name. -/
def insertSorted (k : Keyword) : List Keyword → List Keyword
  | [] => [k]
  | other :: rest =>
    if k.name = other.name then k :: rest
    else if k.name < other.name then k :: other :: rest
    else other :: insertSorted k rest

/-- Add a keyword in place of the one of its name. -/
def insert (v : Vocabulary) (k : Keyword) : Vocabulary :=
  ⟨insertSorted k v.keywords⟩

/-- The number of keywords. -/
def size (v : Vocabulary) : Nat := v.keywords.length

/-- The vocabulary of a list of keywords, a later one replacing an earlier one
of its name. -/
def ofList (keywords : List Keyword) : Vocabulary :=
  keywords.foldl insert empty

/-- The pattern of a time column without a parameter. -/
def defaultTimePattern : String := "%Y-%m-%d %H:%M:%S"

/-- A keyword without a parameter. -/
def plainKeyword (name description : String) (column : Column) : Keyword :=
  ⟨name, .plain column, description⟩

/-- A keyword for a time, with an optional pattern. -/
def timeKeyword (name description : String) (rule : ColumnRule) : Keyword :=
  ⟨name, .optional .timePattern defaultTimePattern rule, description⟩

/-- The keywords of every journal. -/
def standardKeywords : List Keyword :=
  [⟨"n", .preset "\n" .text, "newline"⟩,
   ⟨"t", .preset "\t" .text, "tab"⟩,
   ⟨"const", .required .text .text, "constant text"⟩,
   plainKeyword "srcip" "client address" (.address .request),
   plainKeyword "dstip" "server address" (.address .response),
   plainKeyword "srcport" "client port" (.port .request),
   plainKeyword "dstport" "server port" (.port .response),
   plainKeyword "status" "connection status" .status,
   plainKeyword "closer" "address that closed the connection" .closer,
   plainKeyword "reqline" "first request line" (.capture .request .firstLine),
   plainKeyword "respline" "first response line" (.capture .response .firstLine),
   plainKeyword "reqhdr" "request headers" (.capture .request .headers),
   plainKeyword "resphdr" "response headers" (.capture .response .headers),
   plainKeyword "request" "request payload" (.payload .request),
   plainKeyword "response" "response payload" (.payload .response),
   plainKeyword "reqsize" "request bytes" (.size .request),
   plainKeyword "respsize" "response bytes" (.size .response),
   timeKeyword "reqtime" "time of the last request" (.payloadTime .request),
   timeKeyword "resptime" "time of the last response" (.payloadTime .response),
   timeKeyword "time" "time the record was written" .writtenTime,
   plainKeyword "reqdur" "first to last request (s)" (.span .requestPhase),
   plainKeyword "latency" "open or request to last response (s)" (.span .latency),
   plainKeyword "ttfb" "request to first response (s)" (.span .firstAnswer),
   plainKeyword "respdur" "first to last response (s)" (.span .responsePhase),
   plainKeyword "idle" "open to first request (s)" (.span .idleBefore),
   plainKeyword "tailidle" "last response to close (s)" (.span .idleAfter),
   plainKeyword "closedelay" "last activity to close (s)" (.span .lingering),
   plainKeyword "setup" "connection attempt to open (s)" (.span .handshake)]

/-- The vocabulary of every journal. -/
def standard : Vocabulary := ofList standardKeywords

end Vocabulary

end TcpJournal
