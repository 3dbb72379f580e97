import TcpJournal.Shell.Rules.Syntax

/-!
# What names are used for

A name of a script stands for a variable or for an array, the same one wherever it is
used.  A name that is only handed to functions is what the functions take it for.
-/

namespace TcpJournal

namespace Shell

namespace Rules

/-- What a name is used for. -/
inductive Role where
  | value
  | array
  deriving DecidableEq, Repr

/-- A name in its scope: the function whose parameter it is, or none. -/
structure ScopedName where
  scope : Option (List Char)
  name : List Char
  deriving DecidableEq, Repr

/-- A call of a function; of its arguments, names that stand by themselves are kept. -/
structure CallSite where
  function : List Char
  arguments : List (Option ScopedName)
  deriving DecidableEq, Repr

/-- What is known about the names of a script. -/
structure Roles where
  known : List (ScopedName × Role)
  parameters : List (Chars × List Chars)
  calls : List CallSite
  deriving DecidableEq, Repr

namespace Role

/-- The word for what a name is. -/
def shown (role : Role) (n : ScopedName) : Chars :=
  (if n.scope.isSome then "local ".toList else []) ++
    (match role with
      | value => "variable".toList
      | array => "array".toList)

end Role

namespace Roles

/-- Variables that every script has. -/
def usualVariables : List String :=
  ["FS", "OFS", "ORS", "RS", "SUBSEP", "CONVFMT", "OFMT", "NR", "FNR", "NF", "RSTART", "RLENGTH",
   "FILENAME", "ARGC"]

/-- Arrays that every script has. -/
def usualArrays : List String := ["ARGV", "ENVIRON"]

/-- What is known in front of a script, given the variables that are set there. -/
def start (given : List Chars) : Roles :=
  let entry (role : Role) (name : Chars) : ScopedName × Role := (⟨none, name⟩, role)
  { known := (usualVariables.map fun n => entry .value n.toList) ++
      (usualArrays.map fun n => entry .array n.toList) ++ given.map (entry .value)
    parameters := []
    calls := [] }

/-- A name as it is used inside a function, or outside of all of them. -/
def nameIn (r : Roles) (inside : Option Chars) (name : Chars) : ScopedName :=
  match inside with
  | none => ⟨none, name⟩
  | some f => ⟨if ((r.parameters.lookup f).getD []).contains name then some f else none, name⟩

/-- Whether a name has been used for a value or an array. -/
def isUsed (r : Roles) (n : ScopedName) : Bool :=
  (r.known.lookup n).isSome || n.scope.isSome

/-- A name is used in a role, if it has no other one. -/
def use (r : Roles) (n : ScopedName) (role : Role) : Except Chars Roles :=
  match r.known.lookup n with
  | none => .ok { r with known := (n, role) :: r.known }
  | some other =>
    if other = role then .ok r
    else .error ("illegal reference to ".toList ++ other.shown n ++ ' ' :: n.name)

/-- An argument has the role of the parameter that takes it. -/
def join (r : Roles) (argument : Option ScopedName) (parameter : ScopedName) :
    Except Chars Roles :=
  match argument with
  | none => r.use parameter .value
  | some a =>
    match r.known.lookup a, r.known.lookup parameter with
    | some role, _ => r.use parameter role
    | none, some role => r.use a role
    | none, none => .ok r

/-- The arguments of a call have the roles of the parameters. -/
def joinCall (r : Roles) (call : CallSite) : Except Chars Roles :=
  match r.parameters.lookup call.function with
  | none => .error ("function ".toList ++ call.function ++ " never defined".toList)
  | some names =>
    if names.length < call.arguments.length then
      .error ("too many arguments in call to ".toList ++ call.function)
    else
      (call.arguments.zip names).foldlM
        (fun r (argument, name) => r.join argument ⟨some call.function, name⟩) r

/-- What is known once all calls have been looked at, as often as there are calls. -/
def settled (r : Roles) : Except Chars Roles :=
  r.calls.foldlM (fun r _ => r.calls.foldlM joinCall r) r

/-- The names that may not be set like variables from outside. -/
def reserved (r : Roles) : List Chars :=
  (r.known.filterMap fun (n, role) =>
    if role = .array && n.scope.isNone then some n.name else none) ++ r.parameters.map Prod.fst

end Roles

end Rules

end Shell

end TcpJournal
