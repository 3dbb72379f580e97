import TcpJournal.Format.Program
import TcpJournal.Format.Vocabulary
import TcpJournal.Text.Quoted

/-!
# Outlines of keywords and programs

An outline names a value's type and its parts on one line, for people who look
into a vocabulary or a program.  Texts are quoted, and a column shows the
keyword and the parameter it was written with.
-/

namespace TcpJournal

/-- A named value with named parts. -/
def outline (name : String) (parts : List (String × String)) : String :=
  name ++ " \x7b " ++ ", ".intercalate (parts.map fun (key, value) => key ++ ": " ++ value) ++
    " \x7d"

namespace ParameterKind

/-- The name of a parameter kind in outlines. -/
def outlineName : ParameterKind → String
  | .text => "Text"
  | .timePattern => "TimeFormat"

end ParameterKind

namespace UsageKind

/-- The name of a usage kind in outlines. -/
def outlineName : UsageKind → String
  | .bareName => "NoParameter"
  | .preset => "Preset"
  | .mandatory => "Mandatory"
  | .optional => "Optional"

end UsageKind

namespace Usage

/-- The outline of a usage. -/
def outlined : Usage → String
  | plain _ => "Plain"
  | preset parameter _ => outline "Preset" [("arg", Text.quoted parameter)]
  | required kind _ => outline "Required" [("param", kind.outlineName)]
  | optional kind default _ =>
    outline "Optional" [("param", kind.outlineName), ("default", Text.quoted default)]

end Usage

namespace Keyword

/-- The outline of a keyword. -/
def outlined (k : Keyword) : String :=
  outline "Keyword" [("name", Text.quoted k.name), ("kind", k.usage.kind.outlineName)]

end Keyword

namespace ProgramColumn

/-- The outline of a program's column. -/
def outlined (c : ProgramColumn) : String :=
  let parameter :=
    match c.parameter with
    | none => "None"
    | some text => "Some(" ++ Text.quoted text ++ ")"
  outline "FieldFactory" [("keyword", Text.quoted c.keyword), ("param", parameter)]

end ProgramColumn

namespace Program

/-- The outline of a program. -/
def outlined (program : Program) : String :=
  let columns := ", ".intercalate (program.columns.map ProgramColumn.outlined)
  outline "FormatProgram" [("factories", "[" ++ columns ++ "]")]

end Program

end TcpJournal
