import TcpJournal.Decimal

/-!
# Errors of format strings

The causes for which a format string has no program, each with one message.
Offsets count bytes of the UTF-8 encoding.
-/

namespace TcpJournal

/-- Why a format string has no program. -/
inductive CompileError where
  | namelessKeyword (offset : Nat)
  | unknownName (name : String)
  | parameterMissing (keyword : String) (opening : Char)
  | parameterUnclosed (keyword : String) (closing : Char)
  | invalidTimePattern (keyword pattern : String)
  deriving DecidableEq, Repr

namespace CompileError

/-- The message for an error. -/
def message : CompileError → String
  | namelessKeyword offset =>
    "'%' at offset " ++ String.ofList (Decimal.digits offset) ++
      " is not followed by a keyword name"
  | unknownName name => "unknown keyword '" ++ name ++ "'"
  | parameterMissing keyword opening =>
    "keyword '" ++ keyword ++ "' requires a parameter starting with '" ++
      String.singleton opening ++ "'"
  | parameterUnclosed keyword closing =>
    "parameter of keyword '" ++ keyword ++ "' is not terminated by '" ++
      String.singleton closing ++ "'"
  | invalidTimePattern keyword pattern =>
    "invalid time format '" ++ pattern ++ "' for keyword '" ++ keyword ++ "'"

end CompileError

end TcpJournal
