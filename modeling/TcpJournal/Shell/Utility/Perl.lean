import TcpJournal.Shell.Sigil.Run
import TcpJournal.Shell.Utility.Options

/-!
# Scripts of names with sigils as a program

The program `perl` carries out a script that its options, a file or the standard input
holds.  The options may put the script into a loop over the lines of the inputs; the
loop is written around the text of the script.
-/

namespace TcpJournal

namespace Shell

namespace Utility

open Sigil

/-- How a script is carried out. -/
structure SigilOptions where
  pieces : Option (List Chars)
  isCurrent : Bool
  loops : Bool
  prints : Bool
  chomps : Bool
  splits : Bool
  separator : Option Chars
  recordEnd : Scalar
  lineEnd : Scalar
  inPlace : Bool
  checksOnly : Bool
  showsVersion : Bool
  uses : Chars
  deriving DecidableEq, Repr

namespace SigilOptions

/-- No options. -/
def none : SigilOptions :=
  ⟨.none, false, false, false, false, false, .none, .text ['\n'], .undefined, false, false,
    false, []⟩

/-- The sign for line ends that digits stand for. -/
def endSign (digits : Chars) : Scalar :=
  let n := digits.foldl (fun n c => 8 * n + (c.toNat - '0'.toNat)) 0
  if n > 255 then .undefined
  else .text [Char.ofNat n]

/-- The letters of one word of options, with the word behind it; the answer says
whether that word was used. -/
def letters : Nat → Chars → Option Chars → SigilOptions → Except Chars (SigilOptions × Bool)
  | 0, _, _, o => .ok (o, false)
  | _, [], _, o => .ok (o, false)
  | fuel + 1, letter :: rest, next, o =>
    let piece (o : SigilOptions) : Except Chars (SigilOptions × Bool) :=
      match rest, next with
      | [], .none => .error "No code specified for -e.\n".toList
      | [], some text => .ok ({ o with pieces := some (o.pieces.getD [] ++ [text]) }, true)
      | text, _ => .ok ({ o with pieces := some (o.pieces.getD [] ++ [text]) }, false)
    let digits := (rest.take 3).takeWhile fun c => '0' ≤ c && c ≤ '7'
    match letter with
    | 'e' => piece o
    | 'E' => piece { o with isCurrent := true }
    | 'n' => letters fuel rest next { o with loops := true }
    | 'p' => letters fuel rest next { o with loops := true, prints := true }
    | 'a' => letters fuel rest next { o with loops := true, splits := true }
    | 'v' => letters fuel rest next { o with showsVersion := true }
    | 'c' => letters fuel rest next { o with checksOnly := true }
    | 'F' => .ok ({ o with loops := true, splits := true, separator := some rest }, false)
    | 'l' =>
      let lineEnd := if digits = [] then o.recordEnd else endSign digits
      letters fuel (rest.drop digits.length) next { o with chomps := true, lineEnd }
    | '0' =>
      let recordEnd : Scalar := match digits with
        | [] => .text [Char.ofNat 0]
        | ['0'] => .text []
        | digits => endSign digits
      letters fuel (rest.drop digits.length) next { o with recordEnd }
    | 'g' => letters fuel rest next { o with recordEnd := .undefined }
    | 'i' => .ok ({ o with inPlace := true }, false)
    | 'M' | 'm' =>
      if rest = [] then .error ("Missing argument to -".toList ++ [letter, '.', '\n'])
      else
        let library := rest.takeWhile (· ≠ '=')
        let listed := rest.drop library.length
        let listed := if letter = 'm' && listed = [] then "()".toList
          else listed.map fun c => if c = '=' || c = ',' then ' ' else c
        let use := "use ".toList ++ library ++ listed ++ "; ".toList
        .ok ({ o with uses := o.uses ++ use }, false)
    | 'I' => .ok (o, rest = [])
    | 'C' | 'x' => .ok (o, false)
    | 'w' | 'W' | 'X' | 's' | 'S' | 't' | 'T' | 'u' | 'U' | 'f' | '-' =>
      letters fuel rest next o
    | letter =>
      .error ("Unrecognized switch: -".toList ++ letter :: rest ++
        "  (-h will show valid options).\n".toList)

/-- The options in front of operands, and the operands. -/
def read : List Chars → SigilOptions → Except Chars (SigilOptions × List Chars)
  | [], o => .ok (o, [])
  | word :: rest, o =>
    match word with
    | ['-', '-'] => .ok (o, rest)
    | '-' :: '-' :: _ =>
      .error ("Unrecognized switch: ".toList ++ word ++ "  (-h will show valid options).\n".toList)
    | '-' :: c :: cs =>
      match letters (word.length + 1) (c :: cs) rest.head? o with
      | .error reason => .error reason
      | .ok (o, true) => read (rest.drop 1) o
      | .ok (o, false) => read rest o
    | _ => .ok (o, word :: rest)
termination_by words => words.length
decreasing_by all_goals simp_wf; try omega

/-- The text of a script with the loop that the options ask for. -/
def wrapped (o : SigilOptions) (text : Chars) : Chars :=
  if !o.loops then o.uses ++ text
  else
    let separator := match o.separator with
      | .none => "' '".toList
      | some s =>
        if s.head?.any fun c => c = '/' || c = '"' || c = '\'' then s
        else 'q' :: Char.ofNat 0 :: s ++ [Char.ofNat 0]
    o.uses ++ "LINE: while (<>) \x7b".toList ++
      (if o.chomps then "chomp;".toList else []) ++
      (if o.splits then "our @F=split(".toList ++ separator ++ ");".toList else []) ++
      text ++ "\n;\x7d".toList ++
      (if o.prints then "continue\x7bprint;\x7d".toList else [])

end SigilOptions

/-- The statements inside a statement. -/
def innerStatements : Statement → List Statement
  | .branch _ consequence alternative => consequence ++ alternative
  | .loop _ _ body after => body ++ after
  | .counted _ _ _ body | .forEach _ _ _ body | .block body => body
  | _ => []

/-- The definitions and the blocks for the start and the end among statements. -/
def setAside : Nat → List Statement → List Statement
  | 0, _ => []
  | fuel + 1, body =>
    body.flatMap fun s => match s with
      | .define .. | .first _ | .last _ => [s]
      | s => setAside fuel (innerStatements s)

/-- The state in which a script starts. -/
def startingMachine (o : SigilOptions) (name : Chars) (arguments : List Chars)
    (environment : List (Chars × Chars)) (special : List Statement) : Machine :=
  let defined := special.filterMap fun s => match s with
    | .define name body => some (name, body)
    | _ => none
  let globals : Scope :=
    [("$0".toList, .one (.text name)), ("$/".toList, .one o.recordEnd),
      ("$\\".toList, .one o.lineEnd), ("$,".toList, .one .undefined),
      ("$\"".toList, .one (.text [' '])), ("$;".toList, .one (.text [Char.ofNat 28])),
      ("$@".toList, .one (.text [])),
      ("$?".toList, .one (.whole 0)), ("$^W".toList, .one (.whole 0)),
      ("@ARGV".toList, .many (arguments.map .text)),
      ("%ENV".toList, .keyed (environment.map fun (key, v) => (key, .text v)))]
  { scopes := [globals]
    functions := (defined.mapIdx fun i d => (d.1, i)).reverse
    codes := (defined.map Prod.snd).toArray
    printed := []
    inputs := []
    sinks := []
    lastText := []
    lastMatch := Option.none
    ends := special.filterMap fun s => match s with
      | .last body => some body
      | _ => Option.none
    errorNumber := 0
    lineCount := 0
    line := 1
    alarm := 0 }

/-- How deep calls and blocks may lie in each other. -/
def deepestCall : Nat := 4000

/-- Carry out a script file by file, so that what it prints goes into the file that it
reads. -/
def editInPlace (body : Act Unit) : Act Unit := do
  let files := (← get).array "ARGV".toList
  files.forM fun file => do
    modify fun m => m.hold "@ARGV".toList (.many [file])
    Act.flush
    body
    let printed := (← get).printed.reverse
    modify fun m => { m with printed := [] }
    let _ ← Act.ofSteps (Steps.writeFile file.toText printed)

/-- The status with which a script ends; what is wrong is reported. A script that a
signal ends has none. -/
def scriptStatus (name : Chars) (m : Machine) : Except Leap Unit → Steps (Option Nat)
  | .ok () => return some 0
  | .error (.exit status) | .error (.left status) => return some status
  | .error (.died message) => do
    Steps.complain message
    let last := (m.stored ['?']).toInt.toNat / 256 % 256
    let number := m.errorNumber % 256
    return some (if number ≠ 0 then number else if last ≠ 0 then last else 255)
  | .error .killed => return Option.none
  | .error .nextRound => outside "\"next\" outside a loop block"
  | .error .loopEnd => outside "\"last\" outside a loop block"
  | .error (.returned _) => outside "return outside a subroutine"
where
  /-- Report that something stands where it may not. -/
  outside (what : String) : Steps (Option Nat) := do
    Steps.complain ("Can't ".toList ++ what.toList ++ " at ".toList ++ name ++ " line ".toList ++
      Decimal.digits m.line ++ ['.', '\n'])
    return some 255

/-- Carry out the blocks for the end, and write what has been printed. -/
def finishScript (engine : Engine) (name : Chars) (status : Nat) (m : Machine) : Steps Nat := do
  let m := m.hold "$?".toList (.one (.ofNat status))
  let ends : Act Unit := m.ends.reverse.forM fun body => do
    let _ ← Act.inScope (engine.run false body)
  let (result, m) ← ends.run.run m
  let status? ← match result with
    | .ok () => pure (some ((m.stored ['?']).toInt % 256).toNat)
    | result => scriptStatus name m result
  match status? with
  | Option.none => return 0
  | some status =>
    let _ ← Act.flush.run.run m
    return status

/-- Carry out a script: the blocks for the start, the statements, and the blocks for
the end. -/
def runSigilScript (spawn : Spawn) (o : SigilOptions) (name text : Chars)
    (arguments : List Chars) : Steps Nat := do
  match parse o.isCurrent (o.wrapped text) with
  | .error e =>
    Steps.complain (e.reason ++ " at ".toList ++ name ++ " line ".toList ++ Decimal.digits e.line ++
      ", near \"\"\n".toList ++ "Execution of ".toList ++ name ++
      " aborted due to compilation errors.\n".toList)
    return 255
  | .ok script =>
    if o.checksOnly then
      Steps.complain (name ++ " syntax OK\n".toList)
      return 0
    let special := setAside text.length.succ script
    let machine := startingMachine o name arguments (← get).environment special
    let engine := Engine.ofDepth spawn deepestCall
    let body : Act Unit := do
      special.forM fun s => match s with
        | .first body => do
          let _ ← Act.inScope (engine.run false body)
        | _ => pure ()
      let main : Act Unit := do
        let _ ← engine.run false script
      if o.inPlace && machine.array "ARGV".toList ≠ [] then editInPlace main else main
    let (result, m) ← body.run.run machine
    match result with
    | .error (.left status) => return status
    | result =>
      match ← scriptStatus name m result with
      | Option.none => return 0
      | some status => finishScript engine name status m

/-- Carry out a script for the inputs. -/
def perl (spawn : Spawn) : Program := fun words => do
  match SigilOptions.read words .none with
  | .error reason =>
    Steps.complain reason
    return 29
  | .ok (o, operands) =>
    if o.showsVersion then return 0
    match o.pieces, operands with
    | some pieces, arguments =>
      runSigilScript spawn o "-e".toList (pieces.flatMap fun text => text ++ ['\n']) arguments
    | Option.none, [] =>
      match ← Steps.read 0 Option.none with
      | .ok text => runSigilScript spawn o ['-'] text []
      | .error _ => return 0
    | Option.none, file :: arguments =>
      match ← if file = ['-'] then Steps.read 0 Option.none else Steps.readFile file with
      | .ok text => runSigilScript spawn o file text arguments
      | .error e =>
        Steps.complain ("Can't open perl script \"".toList ++ file ++ "\": ".toList ++
          e.message.toList ++ ['\n'])
        return e.number

end Utility

end Shell

end TcpJournal
