import TcpJournal.Decimal
import TcpJournal.Shell.Syntax
import TcpJournal.Text

/-!
# Signals

The signals by name and number, and what a process does that has made no
arrangement for one: most signals end it, a few are ignored.
-/

namespace TcpJournal

namespace Shell

/-- How a process ended. -/
inductive Ending where
  | exit (status : Nat)
  | signal (number : Nat)
  deriving DecidableEq, Repr

/-- The signals by number, from 1. -/
def signalNames : List String :=
  ["HUP", "INT", "QUIT", "ILL", "TRAP", "ABRT", "BUS", "FPE", "KILL", "USR1", "SEGV", "USR2",
   "PIPE", "ALRM", "TERM", "STKFLT", "CHLD", "CONT", "STOP", "TSTP", "TTIN", "TTOU", "URG",
   "XCPU", "XFSZ", "VTALRM", "PROF", "WINCH", "IO", "PWR", "SYS"]

/-- The full name of a signal; those of the real-time signals have none. -/
def signalName? (number : Nat) : Option String :=
  if number = 0 then none else (signalNames[number - 1]?).map ("SIG" ++ ·)

/-- An ASCII letter in upper case. -/
def upperCase (c : Char) : Char :=
  if 'a' ≤ c && c ≤ 'z' then Char.ofNat (c.toNat - 32) else c

/-- An ASCII letter in lower case. -/
def lowerCase (c : Char) : Char :=
  if 'A' ≤ c && c ≤ 'Z' then Char.ofNat (c.toNat + 32) else c

/-- The greatest signal number. -/
def lastSignal : Nat := 64

/-- The name of a real-time signal, from which others are counted. -/
def realTimeName (number : Nat) : String :=
  if number ≤ 49 then
    "RTMIN" ++ (if number = 34 then "" else "+" ++ String.ofList (Decimal.digits (number - 34)))
  else
    "RTMAX" ++ (if number = 64 then "" else "-" ++ String.ofList (Decimal.digits (64 - number)))

/-- The name under which a signal is listed. -/
def listedName (number : Nat) : String :=
  if number = 0 then "EXIT"
  else if number = 16 then "16"
  else if number ≤ 31 then signalNames.getD (number - 1) ""
  else if number ≤ 33 then String.ofList (Decimal.digits number)
  else realTimeName number

/-- The signal that a text names, by number or by name in any case. -/
def signalNumber? (text : Chars) : Option Nat :=
  if text ≠ [] && text.all Text.isDigit then
    if Decimal.value text ≤ lastSignal then some (Decimal.value text) else none
  else
    let name := String.ofList (text.map upperCase)
    (List.range (lastSignal + 1)).find? fun n => (n ≤ 31 || 34 ≤ n) && listedName n = name

/-- The signal that a child has ended. -/
def childSignal : Nat := 17

/-- A process without arrangements ignores the signal. -/
def isIgnoredSignal (number : Nat) : Bool :=
  number = childSignal || number = 18 || number = 23 || number = 28

/-- A process cannot make arrangements for the signal. -/
def isUncatchable (number : Nat) : Bool :=
  number = 9 || number = 19

/-- The words by which a shell reports that a signal ended a command. -/
def signalDescription (number : Nat) : String :=
  match number with
  | 1 => "Hangup"
  | 3 => "Quit"
  | 4 => "Illegal instruction"
  | 5 => "Trace/breakpoint trap"
  | 6 => "Aborted"
  | 7 => "Bus error"
  | 8 => "Floating point exception"
  | 9 => "Killed"
  | 10 => "User defined signal 1"
  | 11 => "Segmentation fault"
  | 12 => "User defined signal 2"
  | 14 => "Alarm clock"
  | 15 => "Terminated"
  | n => "Signal " ++ String.ofList (Decimal.digits n)

end Shell

end TcpJournal
