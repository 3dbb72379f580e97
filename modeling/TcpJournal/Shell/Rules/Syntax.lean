import TcpJournal.Binary64
import TcpJournal.Shell.Regex

/-!
# Rules on records

A script is a list of rules.  A rule has a pattern, which chooses records, and
an action, which is carried out for each record that is chosen.
-/

namespace TcpJournal

namespace Shell

namespace Rules

/-- An operation on two numbers. -/
inductive Operator where
  | add
  | sub
  | mul
  | div
  | mod
  | pow
  deriving DecidableEq, Repr

/-- A comparison of two values. -/
inductive Comparison where
  | less
  | atMost
  | equal
  | different
  | greater
  | atLeast
  deriving DecidableEq, Repr

/-- Where a record is read from. -/
inductive RecordSource where
  | main
  | file
  | command
  deriving DecidableEq, Repr

/-- An expression.  Names, fields and elements are places for values. -/
inductive Expr where
  | number (x : Binary64)
  | text (t : Chars)
  | regex (r : Regex)
  | name (n : Chars)
  | field (index : Expr)
  | element (array : Chars) (subscripts : List Expr)
  | assign (target : Expr) (operator : Option Operator) (value : Expr)
  | step (target : Expr) (up answersOld : Bool)
  | positive (e : Expr)
  | negative (e : Expr)
  | negated (e : Expr)
  | arithmetic (operator : Operator) (left right : Expr)
  | compare (comparison : Comparison) (left right : Expr)
  | joined (left right : Expr)
  | both (left right : Expr)
  | either (left right : Expr)
  | matching (isNegated : Bool) (subject pattern : Expr)
  | isIn (subscripts : List Expr) (array : Chars)
  | choice (condition consequence alternative : Expr)
  | call (function : Chars) (arguments : List Expr)
  | builtin (function : String) (arguments : List Expr)
  | readRecord (source : RecordSource) (operand : Option Expr) (target : Option Expr)
  | grouped (items : List Expr)

namespace Expr

/-- A value can be put there. -/
def isPlace : Expr → Bool
  | name _ | field _ | element _ _ => true
  | _ => false

end Expr

/-- Where output goes. -/
inductive OutputKind where
  | standard
  | file
  | appended
  | command
  deriving DecidableEq, Repr

/-- A statement of an action. -/
inductive Statement where
  | nothing
  | evaluate (e : Expr)
  | print (isFormatted : Bool) (items : List Expr) (kind : OutputKind) (target : Option Expr)
  | sequence (statements : List Statement)
  | branch (condition : Expr) (consequence alternative : Statement)
  | loop (condition : Expr) (body : Statement)
  | loopOnce (body : Statement) (condition : Expr)
  | count (first : Statement) (condition : Option Expr) (after body : Statement)
  | forEach (name array : Chars) (body : Statement)
  | leaveLoop
  | nextRound
  | nextRecord
  | nextFile
  | exit (status : Option Expr)
  | answer (value : Option Expr)
  | delete (array : Chars) (subscripts : List Expr)

/-- Which records a rule chooses. -/
inductive RulePattern where
  | atStart
  | atEnd
  | always
  | holds (e : Expr)
  | span (first last : Expr)

/-- A pattern and its action; without one, the record is printed. -/
structure Rule where
  pattern : RulePattern
  action : Option Statement

/-- A function of a script. -/
structure Function where
  name : Chars
  parameters : List Chars
  body : Statement

/-- Rules and functions, and the names that may not be set like variables from outside. -/
structure Script where
  rules : List Rule
  functions : List Function
  reserved : List Chars

end Rules

end Shell

end TcpJournal
