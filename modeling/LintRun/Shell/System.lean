import LintRun.Files.Tree
import LintRun.Shell.State

/-!
# Shell — The system

The files that are there in every system, beside those of the tree: directories, devices and programs.

* `System.kind?`: what a path of the system leads to.
* `fileKind?`: what a path leads to, in the system or in the tree.
* `readFile`: the bytes behind a path.
-/

namespace LintRun.Shell

/-- What a path leads to. -/
inductive FileKind
  | file (size : Nat) (executable : Bool)
  | folder
  | device
  deriving DecidableEq, Repr

namespace System

/-- The directories of the system's programs. -/
def directories : List Path := ["/usr/bin", "/bin"].map Path.ofString

def folders : List Path :=
  ["/", "/usr", "/usr/bin", "/usr/lib", "/usr/local", "/usr/local/bin", "/usr/sbin", "/usr/share", "/bin", "/dev",
    "/etc",
    "/home", "/lib", "/opt", "/proc", "/root", "/sbin", "/tmp", "/var", "/var/tmp", "/run", "/sys", "/mnt"].map
    Path.ofString

def devices : List Path :=
  ["/dev/null", "/dev/zero", "/dev/tty", "/dev/stdin", "/dev/stdout", "/dev/stderr", "/dev/random",
    "/dev/urandom"].map Path.ofString

def files : List Path := ["/etc/passwd", "/etc/group", "/etc/hosts", "/etc/hostname"].map Path.ofString

def shellNames : List (String × Dialect) := [("sh", .posix), ("dash", .posix), ("bash", .bash), ("rbash", .bash)]

/-- The names of the system's programs. -/
def programs : List String :=
  shellNames.map Prod.fst ++
    ["[", "arch", "awk", "base64", "basename", "cat", "chmod", "cksum", "cmp", "comm", "cp", "cut", "date",
      "dirname", "echo", "egrep", "env", "expand", "expr", "false", "fgrep", "find", "fold", "grep", "head",
      "hostname", "id", "install", "join", "ln", "logname", "ls", "mawk", "md5sum", "mkdir", "mktemp", "mv", "nice",
      "nl", "nohup", "nproc", "od", "paste", "printenv", "printf", "pwd", "readlink", "realpath", "rev", "rm",
      "rmdir", "sed", "seq", "setsid", "sha1sum", "sha224sum", "sha256sum", "sha384sum", "sha512sum", "sleep",
      "sort", "stat", "stdbuf", "sum", "sync", "tac", "tail", "tee", "test", "timeout", "touch", "tr", "true",
      "truncate", "tsort", "tty", "uname", "unexpand", "uniq", "wc", "which", "whoami", "xargs", "yes"]

/-- What a path of the system leads to. -/
def kind? (p : Path) : Option FileKind :=
  if folders.contains p then some .folder
  else if devices.contains p then some .device
  else if files.contains p then some (.file 1000 false)
  else if directories.contains p.parent && programs.contains p.name then some (.file 100000 true)
  else none

end System

/-- The path as it is found from the root. -/
def absolutePath (t : FileTree) (p : Path) : Path := if p.isAbsolute then p else ⟨.absolute, t.home ++ p.parts⟩

/-- The number of a descriptor that a path names. -/
def descriptorPath? (text : String) : Option Nat :=
  match text with
  | "/dev/stdin" => some 0
  | "/dev/stdout" => some 1
  | "/dev/stderr" => some 2
  | _ =>
    if text.startsWith "/dev/fd/" then
      let digits := text.toList.drop 8
      if !digits.isEmpty && digits.all Text.isAsciiDigit then some (Text.numberOf 10 digits) else none
    else none

/-- What a path leads to, in the system or in the tree. -/
def fileKind? (t : FileTree) (text : String) : Option FileKind :=
  if text = "" then none
  else match t.node? (pathOf text) with
    | .ok (.file content executable) =>
      if text.endsWith "/" then none else some (.file content.length executable)
    | .ok (.directory _) => some .folder
    | _ => System.kind? (pathOf text)

def isLink (t : FileTree) (text : String) : Bool :=
  match t.locate .entry (pathOf text) with
  | .ok (.present ((_, .link _) :: _)) => true
  | _ => false

/-- The content of the list of users. -/
def usersText : String := "root:x:0:0:root:/root:/bin/bash\n"

/-- How many of the zeros that never end are read: more than programs ask for. -/
def zerosRead : Nat := Nat.pow 2 18

/-- The bytes behind a path. What a descriptor leads to is taken by reading it. -/
def readFile (text : String) : Act (Except Refusal (List UInt8)) := do
  let s ← get
  match descriptorPath? text with
  | some n =>
    if (streamOf s n).isSome then
      let bytes := inputOf s n
      leaveInput n []
      pure (.ok bytes)
    else pure (.error .noEntry)
  | none =>
    if text = "/dev/null" then pure (.ok [])
    else if text = "/dev/zero" then pure (.ok (List.replicate zerosRead 0))
    else if text = "/etc/passwd" then pure (.ok (bytesOf usersText.toList))
    else match s.tree.node? (pathOf text) with
      | .ok (.file content _) => pure (if text.endsWith "/" then .error .notDirectory else .ok content)
      | .ok _ => pure (.error .isDirectory)
      | .error r => pure (.error (if (System.kind? (pathOf text)) = some .folder then .isDirectory else r))

end LintRun.Shell
