import TcpJournal.FileError

/-!
# A tree of files

A tree holds directories, regular files and devices by their paths from the
root.  `FileTree.find` follows a path from a directory as a system does: a file
in the middle of a path, a name that is too long and a missing directory each
have their own error, and the first of them along the path is the one reported.
-/

namespace TcpJournal

/-- A file that is no place for bytes. -/
inductive Device where
  | null
  | zero
  | full
  | random
  | terminal
  | descriptor (number : Nat)
  deriving DecidableEq, Repr

/-- What stands at a path. -/
inductive FileNode where
  | directory
  | regular (content : List Char) (isProgram : Bool)
  | device (kind : Device)
  deriving DecidableEq, Repr

/-- A path from the root: its names from left to right. -/
abbrev FilePath := List (List Char)

/-- The files that exist; the root directory always does. -/
structure FileTree where
  entries : List (FilePath × FileNode)
  deriving DecidableEq, Repr

namespace FileTree

/-- What stands at a path from the root. -/
def node? (tree : FileTree) (path : FilePath) : Option FileNode :=
  if path = [] then some .directory else tree.entries.lookup path

/-- The tree with a file at a path. -/
def put (tree : FileTree) (path : FilePath) (node : FileNode) : FileTree :=
  ⟨(path, node) :: tree.entries.filter fun entry => entry.1 ≠ path⟩

/-- The tree without what stands at a path. -/
def remove (tree : FileTree) (path : FilePath) : FileTree :=
  ⟨tree.entries.filter fun entry => entry.1 ≠ path⟩

/-- The names in a directory, in no particular order. -/
def names (tree : FileTree) (directory : FilePath) : List (List Char) :=
  tree.entries.filterMap fun (path, _) =>
    if path ≠ [] && path.dropLast = directory then path.getLast? else none

/-- The longest name that a directory holds. -/
def longestName : Nat := 255

/-- The longest path that is followed. -/
def longestPath : Nat := 4095

/-- Follow names from a directory.  The last of them need not exist. -/
def follow (tree : FileTree) : FilePath → List (List Char) → Except FileError FilePath
  | here, [] => .ok here
  | here, name :: rest =>
    match tree.node? here with
    | none => .error .notFound
    | some .directory =>
      if name = [] || name = ['.'] then follow tree here rest
      else if name = ['.', '.'] then follow tree here.dropLast rest
      else if name.length > longestName then .error .nameTooLong
      else follow tree (here ++ [name]) rest
    | some _ => .error .notDirectory

/-- The names of a path between its slashes. -/
def splitPath (text : List Char) : List (List Char) :=
  let (last, names) := text.foldr
    (fun c (name, names) => if c = '/' then ([], name :: names) else (c :: name, names)) ([], [])
  last :: names

/-- The place to which a path leads from a directory.  The last name need not
exist, unless a slash follows it. -/
def find (tree : FileTree) (directory : FilePath) (text : List Char) :
    Except FileError FilePath :=
  if text = [] then .error .notFound
  else if text.length > longestPath then .error .nameTooLong
  else follow tree (if text.head? = some '/' then [] else directory) (splitPath text)

/-- The text of a path from the root. -/
def pathText (path : FilePath) : List Char :=
  if path = [] then ['/'] else path.flatMap fun name => '/' :: name

/-- The directories of a plain system. -/
def standardDirectories : List String :=
  ["/bin", "/boot", "/dev", "/dev/fd", "/dev/shm", "/etc", "/home", "/lib", "/media", "/mnt",
   "/opt", "/proc", "/proc/self", "/proc/self/fd", "/root", "/run", "/sbin", "/srv", "/sys", "/tmp",
   "/usr", "/usr/bin", "/usr/lib", "/usr/local", "/usr/local/bin", "/usr/sbin", "/usr/share",
   "/var", "/var/tmp"]

/-- The devices of a plain system. -/
def standardDevices : List (String × Device) :=
  [("/dev/null", .null), ("/dev/zero", .zero), ("/dev/full", .full), ("/dev/random", .random),
   ("/dev/urandom", .random), ("/dev/tty", .terminal), ("/dev/stdin", .descriptor 0),
   ("/dev/stdout", .descriptor 1), ("/dev/stderr", .descriptor 2), ("/dev/fd/0", .descriptor 0),
   ("/dev/fd/1", .descriptor 1), ("/dev/fd/2", .descriptor 2), ("/dev/fd/3", .descriptor 3),
   ("/proc/self/fd/0", .descriptor 0), ("/proc/self/fd/1", .descriptor 1),
   ("/proc/self/fd/2", .descriptor 2)]

/-- The regular files of a plain system with their first lines. -/
def standardFiles : List (String × String) :=
  [("/etc/passwd", "root:x:0:0:root:/root:/bin/bash\n"), ("/etc/group", "root:x:0:\n"),
   ("/etc/hosts", "127.0.0.1\tlocalhost\n"), ("/etc/shells", "# /etc/shells: valid login shells\n")]

/-- The programs of a plain system. -/
def programs : List String :=
  ["[", "arch", "awk", "b2sum", "base32", "base64", "basename", "basenc", "bash", "cat", "chcon",
   "chgrp", "chmod", "chown", "chroot", "cksum", "cmp", "comm", "cp", "csplit", "cut", "dash",
   "date", "dd", "df", "diff", "dir", "dircolors", "dirname", "dmesg", "du", "echo", "egrep",
   "env", "expand", "expr", "factor", "false", "fgrep", "find", "flock", "fmt", "fold",
   "getconf", "getent", "getopt", "grep", "groups", "gunzip", "gzip", "head", "hostid",
   "hostname", "iconv", "id", "install", "join", "kill", "ldd", "link", "ln", "locale", "logger",
   "login", "logname", "ls", "mawk", "md5sum", "mesg", "mkdir", "mkfifo", "mknod", "mktemp",
   "more", "mountpoint", "mv", "nice", "nl", "nohup", "nproc", "numfmt", "od", "passwd", "paste",
   "pathchk", "perl", "pinky", "pr", "printenv", "printf", "ps", "ptx", "pwd", "readlink",
   "realpath", "rev", "rm", "rmdir", "runcon", "sed", "seq", "setsid", "sh", "sha1sum",
   "sha224sum", "sha256sum", "sha384sum", "sha512sum", "shred", "shuf", "sleep", "sort", "split",
   "stat", "stdbuf", "stty", "sum", "sync", "tac", "tail", "tar", "tee", "test", "timeout",
   "touch", "tr", "true", "truncate", "tsort", "tty", "uname", "unexpand", "uniq", "unlink",
   "users", "vdir", "wc", "which", "who", "whoami", "xargs", "yes", "zcat"]

/-- A plain system. -/
def standard : FileTree :=
  let at_ (path : String) : FilePath := (splitPath path.toList).drop 1
  let program (name : String) : FilePath × FileNode :=
    (["usr".toList, "bin".toList, name.toList], .regular [] true)
  let linked (name : String) : FilePath × FileNode :=
    (["bin".toList, name.toList], .regular [] true)
  ⟨standardDirectories.map (fun path => (at_ path, .directory)) ++
    standardDevices.map (fun (path, kind) => (at_ path, .device kind)) ++
    standardFiles.map (fun (path, text) => (at_ path, .regular text.toList false)) ++
    programs.map program ++ programs.map linked⟩

end FileTree

end TcpJournal
