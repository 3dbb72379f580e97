import TcpJournal.Field

/-!
# Format programs

A program is what a format string means: its columns in order, each under the
keyword and the parameter it was written with.  Runs of literal text are
columns of their own.  Two programs agree when they were written alike, that is
when keywords and parameters are equal.
-/

namespace TcpJournal

/-- One column of a program with the way it was written. -/
structure ProgramColumn where
  keyword : String
  parameter : Option String
  column : Column
  deriving DecidableEq, Repr

namespace ProgramColumn

/-- The keyword under which literal text stands. -/
def literalKeyword : String := "literal"

/-- The column of a run of literal text. -/
def literal (text : String) : ProgramColumn :=
  ⟨literalKeyword, some text, .text text⟩

/-- Both columns were written alike. -/
def agrees (a b : ProgramColumn) : Bool :=
  a.keyword = b.keyword && a.parameter = b.parameter

end ProgramColumn

/-- The columns of a record. -/
structure Program where
  columns : List ProgramColumn
  deriving DecidableEq, Repr

namespace Program

/-- The program without columns. -/
def empty : Program := ⟨[]⟩

/-- The number of columns. -/
def size (program : Program) : Nat := program.columns.length

/-- The fields of a connection that has shown no event. -/
def fields (program : Program) : List Field :=
  program.columns.map fun c => .start c.column

/-- Both programs were written alike, column by column. -/
def agrees (a b : Program) : Bool :=
  a.columns.length = b.columns.length && (a.columns.zip b.columns).all fun (x, y) => x.agrees y

end Program

end TcpJournal
