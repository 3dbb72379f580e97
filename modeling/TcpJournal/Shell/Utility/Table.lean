import TcpJournal.Shell.Utility.Awk
import TcpJournal.Shell.Utility.Calculate
import TcpJournal.Shell.Utility.Clock
import TcpJournal.Shell.Utility.Copy
import TcpJournal.Shell.Utility.Digest
import TcpJournal.Shell.Utility.Dump
import TcpJournal.Shell.Utility.Grep
import TcpJournal.Shell.Utility.Join
import TcpJournal.Shell.Utility.Layout
import TcpJournal.Shell.Utility.Merge
import TcpJournal.Shell.Utility.Perl
import TcpJournal.Shell.Utility.Refill
import TcpJournal.Shell.Utility.Sed
import TcpJournal.Shell.Utility.Sort
import TcpJournal.Shell.Utility.System
import TcpJournal.Shell.Utility.Translate

/-!
# The table of programs

The programs that a plain system has, by their names.
-/

namespace TcpJournal

namespace Shell

namespace Utility

open Shell.Program

/-- Programs that read, choose or arrange text. -/
def textProgram? (name : String) : Option Program :=
  match name with
  | "cat" => some cat
  | "head" => some head
  | "tail" => some tail
  | "tac" => some tac
  | "rev" => some rev
  | "tee" => some tee
  | "dd" => some dd
  | "wc" => some wc
  | "cut" => some cut
  | "tr" => some tr
  | "fmt" => some fmt
  | "fold" => some fold
  | "join" => some join
  | "paste" => some paste
  | "nl" => some nl
  | "expand" => some expand
  | "uniq" => some uniq
  | "comm" => some comm
  | "diff" => some diff
  | "sort" => some sort
  | "grep" => some (grep "grep" none)
  | "egrep" => some (grep "grep" (some 'E'))
  | "fgrep" => some (grep "grep" (some 'F'))
  | "sed" => some sed
  | "od" => some od
  | "base64" => some base64
  | "cksum" => some cksum
  | "md5sum" => some (hashSum "md5sum" md5)
  | "sha1sum" => some (hashSum "sha1sum" sha1)
  | "sha224sum" => some (hashSum "sha224sum" sha224)
  | "sha256sum" => some (hashSum "sha256sum" sha256)
  | "sha384sum" => some (hashSum "sha384sum" sha384)
  | "sha512sum" => some (hashSum "sha512sum" sha512)
  | "sum" => some sum
  | "unexpand" => some unexpand
  | "shuf" => some shuf
  | _ => none

/-- Programs on words, numbers, names, files and the system. -/
def systemProgram? (name : String) : Option Program :=
  match name with
  | "true" => some fun _ => return 0
  | "false" => some fun _ => return 1
  | "echo" => some fun words => output "echo" (outerEchoText words)
  | "printf" => some printf
  | "test" => some (test false)
  | "[" => some (test true)
  | "seq" => some seq
  | "expr" => some expr
  | "factor" => some factor
  | "yes" => some yes
  | "sleep" => some sleep
  | "basename" => some basename
  | "dirname" => some dirname
  | "printenv" => some printenv
  | "pwd" => some fun _ => do
    output "pwd" (FileTree.pathText (← get).directory ++ ['\n'])
  | "ls" => some ls
  | "mkdir" => some mkdir
  | "rm" => some rm
  | "rmdir" => some rmdir
  | "touch" => some touch
  | "cp" => some (copyFile "cp" false)
  | "mv" => some (copyFile "mv" true)
  | "mktemp" => some mktemp
  | "cmp" => some cmp
  | "which" => some which
  | "realpath" => some (realpath "realpath" false)
  | "readlink" => some (realpath "readlink" true)
  | "uname" => some uname
  | "id" => some identity
  | "whoami" => some fun _ => output "whoami" "root\n".toList
  | "hostname" => some fun _ => output "hostname" "localhost\n".toList
  | "su" => some su
  | "date" => some date
  | "sync" | "who" | "users" => some fun _ => return 0
  | "chmod" => some chmod
  | "arch" => some fun _ => output "arch" "x86_64\n".toList
  | "groups" => some fun _ => output "groups" "root\n".toList
  | "logname" => some fun _ => do
    report "logname" "no login name".toList
    return 1
  | "tty" => some fun words => do
    let silent : Bool := words.contains ['-', 's']
    let _ ← if silent then pure 0 else output "tty" "not a tty\n".toList
    return 1
  | _ => none

/-- Programs that start other programs. -/
def startingProgram? (spawn : Spawn) (name : String) : Option Program :=
  match name with
  | "awk" | "mawk" => some (awk spawn)
  | "env" => some (env spawn)
  | "xargs" => some (xargs spawn)
  | "nice" => some (passOn spawn "nice" "n:")
  | "perl" => some (perl spawn)
  | "nohup" => some (passOn spawn "nohup" "")
  | "setsid" => some (passOn spawn "setsid" "cfw")
  | "stdbuf" => some (passOn spawn "stdbuf" "i:o:e:")
  | "timeout" => some (timeout spawn)
  | _ => none

/-- The program of a name. -/
def find? (spawn : Spawn) (name : String) : Option Program :=
  match textProgram? name with
  | some program => some program
  | none =>
    match systemProgram? name with
    | some program => some program
    | none => startingProgram? spawn name

end Utility

end Shell

end TcpJournal
