import TcpJournal.Shell.Child

/-!
# Redirections

A redirection opens a file, a document or a text for a descriptor, or lets a
descriptor lead where another one leads.  Those of a command are carried out
from left to right, and none of them stays if one fails.
-/

namespace TcpJournal

namespace Shell

namespace Evaluate

/-- A path leads to a regular file. -/
def isRegularFile (p : Process) (path : Chars) : Bool :=
  match (p.world.files.find p.directory path).toOption.bind p.world.files.node? with
  | some (.regular ..) => true
  | _ => false

/-- Open a file for descriptors; one that exists may have to stay as it is. -/
def openFor (descriptors : List Nat) (opening : Steps.Opening) (path : Chars)
    (keepsFiles : Bool) : Action Unit := do
  if keepsFiles && isRegularFile (← get) path then redirectionFault true path .alreadyExists
  match ← Steps.openFile opening path with
  | .ok index => descriptors.forM fun descriptor => setDescriptor descriptor (some index)
  | .error e => redirectionFault (opening ≠ .reading) path e

/-- Let a descriptor read a text. -/
def readText (descriptor : Nat) (text : Chars) : Steps Unit := do
  let (index, p) := (← get).addStream (.pipe text [])
  set p
  setDescriptor descriptor (some index)

/-- Let a descriptor lead where the one leads that a text names. -/
def duplicate (descriptor : Nat) (text : Chars) : Action Unit := do
  match (← get).descriptors.lookup (Decimal.value text) with
  | some index => setDescriptor descriptor (some index)
  | none => Action.fault (text ++ ": Bad file descriptor".toList)

/-- Carry out a redirection to what a text names: another descriptor, nothing, or in
the extended shell a file for both outputs. -/
def redirectTo (descriptor : Nat) (text : Chars) : Action Unit := do
  let p ← get
  let isMoved : Bool := text.length > 1 && text.getLast? = some '-' &&
    text.dropLast.all Text.isDigit
  if text = ['-'] then setDescriptor descriptor none
  else if p.dialect = .plain then
    if text.length = 1 && text.all Text.isDigit then duplicate descriptor text
    else
      Action.warn "Syntax error: Bad fd number".toList
      setStatus 2
      throw .exit
  else if text ≠ [] && text.all Text.isDigit then duplicate descriptor text
  else if isMoved then
    duplicate descriptor text.dropLast
    setDescriptor (Decimal.value text.dropLast) none
  else if descriptor = 1 && text ≠ [] then openFor [1, 2] .writing text (p.has 'C')
  else Action.fault (text ++ ": ambiguous redirect".toList)

/-- Carry out a redirection. -/
def redirect (run : Runner) (r : Redirection) : Action Unit := do
  let pathOf : Word → Action Chars := Expansion.text (substitute run)
  match r with
  | .read descriptor target => openFor [descriptor] .reading (← pathOf target) false
  | .write descriptor isForced target =>
    let path ← pathOf target
    openFor [descriptor] .writing path (!isForced && (← get).has 'C')
  | .append descriptor target => openFor [descriptor] .appending (← pathOf target) false
  | .readWrite descriptor target => openFor [descriptor] .updating (← pathOf target) false
  | .document descriptor number =>
    let p ← get
    let cells ← wordCells (substitute run) false false ((p.documents.lookup number).getD [])
    readText descriptor (cellText [' '] cells)
  | .text descriptor content => do
    let text ← Expansion.text (substitute run) content
    readText descriptor (text ++ ['\n'])
  | .writeBoth appends target =>
    let path ← pathOf target
    openFor [1, 2] (if appends then .appending else .writing) path
      (!appends && (← get).has 'C')
  | .duplicate descriptor target => do
    let text ← pathOf target
    redirectTo descriptor text

/-- Carry out redirections; the answer says whether all of them worked. -/
def redirectAll (run : Runner) (redirections : List Redirection) : Action Bool := do
  let before ← get
  let result ← Action.attempt (redirections.forM (redirect run))
  match result with
  | .ok () => return true
  | .error .fault =>
    modify fun p => { p with descriptors := before.descriptors }
    return false
  | .error jump => throw jump

end Evaluate

end Shell

end TcpJournal
