import TcpJournal.Decimal

/-!
# Errors of files

Why a file cannot be opened, read or written, with the numbers and the words by
which systems report them.
-/

namespace TcpJournal

/-- Why an operation on a file fails. -/
inductive FileError where
  | notFound
  | noDevice
  | badDescriptor
  | accessDenied
  | alreadyExists
  | notDirectory
  | isDirectory
  | invalidArgument
  | noSpace
  | nameTooLong
  | notEmpty
  deriving DecidableEq, Repr

namespace FileError

/-- The number of an error. -/
def number : FileError → Nat
  | notFound => 2
  | noDevice => 6
  | badDescriptor => 9
  | accessDenied => 13
  | alreadyExists => 17
  | notDirectory => 20
  | isDirectory => 21
  | invalidArgument => 22
  | noSpace => 28
  | nameTooLong => 36
  | notEmpty => 39

/-- The words for an error. -/
def message : FileError → String
  | notFound => "No such file or directory"
  | noDevice => "No such device or address"
  | badDescriptor => "Bad file descriptor"
  | accessDenied => "Permission denied"
  | alreadyExists => "File exists"
  | notDirectory => "Not a directory"
  | isDirectory => "Is a directory"
  | invalidArgument => "Invalid argument"
  | noSpace => "No space left on device"
  | nameTooLong => "File name too long"
  | notEmpty => "Directory not empty"

/-- All errors. -/
def all : List FileError :=
  [notFound, noDevice, badDescriptor, accessDenied, alreadyExists, notDirectory, isDirectory,
   invalidArgument, noSpace, nameTooLong, notEmpty]

/-- The error of a number. -/
def ofNumber? (n : Nat) : Option FileError :=
  all.find? fun e => e.number = n

/-- The words for an error with its number. -/
def numbered (e : FileError) : String :=
  e.message ++ " (os error " ++ String.ofList (Decimal.digits e.number) ++ ")"

end FileError

end TcpJournal
