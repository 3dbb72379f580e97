import TcpJournal.Shell.Rules.Run
import TcpJournal.Shell.Utility.Options

/-!
# Rules as a program

The program `awk` carries out a script that its first operand or a file holds.
-/

namespace TcpJournal

namespace Shell

namespace Utility

open Rules

/-- The options of the program: the separator of fields, the variables, the
files of the script, and the operands. -/
structure ScriptOptions where
  separator : Option Chars
  settings : List Chars
  files : List Chars
  operands : List Chars
  deriving DecidableEq, Repr

/-- Read options in front of operands. -/
def scriptOptions : List Chars → Except Chars ScriptOptions
  | [] => .ok ⟨none, [], [], []⟩
  | ['-', '-'] :: rest => .ok ⟨none, [], [], rest⟩
  | ['-', letter] :: value :: rest =>
    match letter with
    | 'F' => do
      let o ← scriptOptions rest
      return { o with separator := o.separator.orElse fun _ => some value }
    | 'v' => do
      let o ← scriptOptions rest
      return { o with settings := value :: o.settings }
    | 'f' => do
      let o ← scriptOptions rest
      return { o with files := value :: o.files }
    | 'W' => scriptOptions rest
    | letter => .error ("not an option: -".toList ++ [letter])
  | ('-' :: letter :: value) :: rest =>
    match letter with
    | 'F' => do
      let o ← scriptOptions rest
      return { o with separator := o.separator.orElse fun _ => some value }
    | 'v' => do
      let o ← scriptOptions rest
      return { o with settings := value :: o.settings }
    | 'f' => do
      let o ← scriptOptions rest
      return { o with files := value :: o.files }
    | 'W' => scriptOptions rest
    | letter => .error ("not an option: -".toList ++ letter :: value)
  | operands => .ok ⟨none, [], [], operands⟩

/-- Report something in the name of the program; the status is that of a
failure. -/
def scriptFailure (reason : Chars) : Steps Nat := do
  Program.report "awk" reason
  return 2

/-- Carry out a script with settings and arguments. -/
def runScript (spawn : Spawn) (o : ScriptOptions) (text : Chars) (arguments : List Chars) :
    Steps Nat := do
  let isSetBefore := o.settings.map fun setting => setting.takeWhile (· ≠ '=')
  match Script.parse isSetBefore text with
  | .error e =>
    let line := if e.line = 0 then text.count '\n' + 2 else e.line
    scriptFailure ("line ".toList ++ Decimal.digits line ++ ": ".toList ++ e.reason)
  | .ok script =>
    let m := Machine.start script o.separator ("awk".toList :: arguments) (← get).environment
    let body : Act Unit := do
      match o.settings.find? fun setting => !Act.isAssignmentArgument setting with
      | some setting => throw (.failure ("improper assignment: -v ".toList ++ setting))
      | none =>
        o.settings.forM Act.assignArgument
        performScript spawn
    let (result, m) ← body.run.run m
    let (_, m) ← (Act.closeAll spawn).run.run m
    match result with
    | .ok () | .error .exit => return m.status
    | .error (.failure reason) => scriptFailure reason
    | .error (.fault reason) =>
      let shown (name : String) : Chars := m.globalText name
      let _ ← scriptFailure ("run time error: ".toList ++ reason)
      Steps.complain ("\tFILENAME=\"".toList ++ shown "FILENAME" ++ "\" FNR=".toList ++
        shown "FNR" ++ " NR=".toList ++ shown "NR" ++ ['\n'])
      return 2
    | .error _ => return m.status

/-- Carry out rules for the records of the inputs. -/
def awk (spawn : Spawn) : Program := fun words => do
  match scriptOptions words with
  | .error reason => scriptFailure reason
  | .ok o =>
    match o.files, o.operands with
    | [], [] => return if words = [] then 0 else 2
    | [], text :: arguments => runScript spawn o text arguments
    | files, arguments => do
      let texts ← files.mapM fun file => do
        match ← if file = ['-'] then Steps.read 0 none else Steps.readFile file with
        | .ok text => return Except.ok text
        | .error e =>
          let reason := e.message.toList
          return .error ("cannot open \"".toList ++ file ++ "\" (".toList ++ reason ++ [')'])
      match texts.mapM id with
      | .ok texts => runScript spawn o texts.flatten arguments
      | .error reason => scriptFailure reason

end Utility

end Shell

end TcpJournal
