import TcpJournal.Bytes
import TcpJournal.FileTree

/-!
# Sources of bytes

What a path leads to when it is opened for reading.  A directory can be opened
but not read, and a path may lead to the standard input.
-/

namespace TcpJournal

/-- What a path leads to when it is opened for reading. -/
inductive Source where
  | file (content : Bytes)
  | directory
  | standardInput
  deriving DecidableEq, Repr

namespace Source

/-- The bytes of a source, given those of the standard input. -/
def content (standardInput : Bytes) : Source → Except FileError Bytes
  | file content => .ok content
  | directory => .error .isDirectory
  | .standardInput => .ok standardInput

end Source

namespace Device

/-- What is read from a device; of one that has no end, the first byte. -/
def source : Device → Except FileError Source
  | null => .ok (.file [])
  | zero | full => .ok (.file [0])
  | random => .ok (.file [0xff])
  | terminal => .error .noDevice
  | descriptor 0 => .ok .standardInput
  | descriptor _ => .error .notFound

end Device

namespace FileTree

/-- What a path leads to from a directory. -/
def source (tree : FileTree) (directory : FilePath) (path : String) : Except FileError Source := do
  let place ← tree.find directory ((Bytes.ofString path).byteChars)
  match tree.node? place with
  | none => .error .notFound
  | some .directory => return .directory
  | some (.regular content _) => return .file (Bytes.ofByteChars content)
  | some (.device kind) => kind.source

/-- The tree with a file of bytes in a directory. -/
def putBytes (tree : FileTree) (directory : FilePath) (name : String) (content : Bytes) :
    FileTree :=
  tree.put (directory ++ [(Bytes.ofString name).byteChars]) (.regular (content.byteChars) false)

/-- The directory in which command lines run. -/
def workingDirectory : FilePath := ["tmp".toList]

end FileTree

end TcpJournal
