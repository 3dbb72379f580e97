import TcpJournal.Delivery.Command
import TcpJournal.Json.Content

/-!
# Configuration

A configuration names the format of records and where they go: to the standard
output, or to a command, perhaps run as another user.  It is read from a JSON
document in which everything is optional.  A destination names its kind and,
for a command, the command line; it may also be a list that starts with the
kind.  A destination is read as a whole, so all of its values have to be sound
and the document may not nest deeper than `Config.maxDepth` around them.  What is
wrong with a document that is no configuration is not told.
-/

namespace TcpJournal

/-- Where records go. -/
inductive Destination where
  | standardOutput
  | command (invocation : Invocation)
  deriving DecidableEq, Repr

/-- The settings of a journal. -/
structure Config where
  format : String
  destination : Destination
  deriving DecidableEq, Repr

namespace Config

/-- The format of records unless another is given. -/
def defaultFormat : String :=
  "%time %srcip:%srcport %dstip:%dstport %status %reqsize %respsize %latency \"%reqline\""

/-- The settings unless others are given. -/
def standard : Config := ⟨defaultFormat, .standardOutput⟩

/-- The number of arrays and objects that may stand inside each other around a
value of a destination. -/
def maxDepth : Nat := 127

/-- A text of a value, as a string. -/
def string? (value : JsonValue) : Option String :=
  value.text?.map String.ofList

/-- A user, or none for nothing. -/
def user? (value : JsonValue) : Option (Option String) :=
  match value with
  | .null => some none
  | value => (string? value).map some

/-- The destination of a command line and a user. -/
def commandOf? (command user : JsonValue) : Option Destination := do
  let command ← string? command
  let user ← user? user
  return .command ⟨command, user⟩

/-- The destination of an object's members. -/
def destinationOfMembers? (members : List (Bytes × JsonValue)) : Option Destination := do
  let members ← JsonValue.keyed? members
  let kind ← string? (← (← JsonValue.unique? members "kind"))
  if kind = "stdout" then return .standardOutput
  else if kind = "command" then
    let command ← (← JsonValue.unique? members "command")
    let user ← JsonValue.unique? members "user"
    commandOf? command (user.getD .null)
  else none

/-- The destination of a list's items. -/
def destinationOfItems? (items : List JsonValue) : Option Destination :=
  match items with
  | [] => none
  | kind :: rest => do
    let kind ← string? kind
    match kind, rest with
    | "stdout", [] => return .standardOutput
    | "command", [command] => commandOf? command .null
    | "command", [command, user] => commandOf? command user
    | _, _ => none

/-- The destination that a value describes. -/
def destination? (value : JsonValue) : Option Destination :=
  if value.isSound && 1 + value.depth ≤ maxDepth then
    match value with
    | .object members => destinationOfMembers? members
    | .array items => destinationOfItems? items
    | _ => none
  else none

/-- A setting that is optional: the default if it is absent. -/
def setting? (read : JsonValue → Option α) (default : α) : Option JsonValue → Option α
  | none => some default
  | some value => read value

/-- The configuration of optional settings. -/
def ofSettings? (format destination : Option JsonValue) : Option Config := do
  let format ← setting? string? defaultFormat format
  let destination ← setting? destination? .standardOutput destination
  return ⟨format, destination⟩

/-- The configuration of a document. -/
def ofJson? (document : JsonValue) : Option Config :=
  match document with
  | .array [] => ofSettings? none none
  | .array [format] => ofSettings? (some format) none
  | .array [format, destination] => ofSettings? (some format) (some destination)
  | .object members => do
    let members ← JsonValue.keyed? members
    let format ← JsonValue.unique? members "format"
    let destination ← JsonValue.unique? members "output"
    ofSettings? format destination
  | _ => none

/-- The configuration that bytes describe. -/
def parse? (bytes : Bytes) : Option Config :=
  (JsonValue.parse? bytes).bind ofJson?

end Config

end TcpJournal
