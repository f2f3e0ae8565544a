import LintRun.Shell.Editor.Run
import LintRun.Shell.Records.Run
import LintRun.Shell.Tool.Digest
import LintRun.Shell.Tool.Dump
import LintRun.Shell.Tool.Entry
import LintRun.Shell.Tool.Filter
import LintRun.Shell.Tool.Find
import LintRun.Shell.Tool.Lines
import LintRun.Shell.Tool.Listing
import LintRun.Shell.Tool.Number
import LintRun.Shell.Tool.Sort
import LintRun.Shell.Tool.Sorted
import LintRun.Shell.Tool.Start
import LintRun.Shell.Tool.Translate

/-!
# Shell — Programs of the system: catalog

* `Tool.find?`: what the program of a name does.
-/

namespace LintRun.Shell
namespace Tool

/-- The programs that tell about the system, or work on words. -/
def ofWords : List (String × Plain) :=
  [("true", fun _ => pure 0), ("false", fun _ => pure 1), ("sync", fun _ => pure 0), ("yes", yes), ("sleep", sleep),
    ("basename", basename), ("dirname", dirname), ("printenv", printEnvironment), ("pwd", workingDirectory),
    ("printf", printf), ("echo", echo), ("test", test false), ("[", test true), ("uname", uname), ("id", identity),
    ("whoami", tells "root"), ("arch", tells "x86_64"), ("hostname", hostname), ("nproc", processors),
    ("tty", terminal), ("logname", loginName), ("date", date), ("seq", sequence), ("expr", expression),
    ("which", which)]

/-- The programs that read files. -/
def ofContents : List (String × Plain) :=
  [("cat", concatenate), ("head", head), ("tail", tail), ("wc", count), ("tac", backwards), ("rev", reversed),
    ("nl", number), ("paste", paste), ("cut", cut), ("fold", fold), ("expand", expand), ("unexpand", unexpand),
    ("tee", tee), ("cmp", compare), ("tr", translate), ("sort", sort), ("uniq", unique), ("comm", common),
    ("join", join), ("tsort", topological), ("grep", filterLines .basic), ("egrep", filterLines .extended),
    ("fgrep", filterLines .fixed), ("od", dump), ("base64", sixBits), ("md5sum", digests "MD5" Digest.md5),
    ("sha1sum", digests "SHA1" Digest.sha1), ("sha224sum", digests "SHA224" Digest.sha224),
    ("sha256sum", digests "SHA256" Digest.sha256), ("sha384sum", digests "SHA384" Digest.sha384),
    ("sha512sum", digests "SHA512" Digest.sha512), ("cksum", checksum), ("sum", sum)]

/-- The programs that tell about files, make them and change them. -/
def ofEntries : List (String × Plain) :=
  [("mkdir", makeDirectories), ("rmdir", removeDirectories), ("rm", remove), ("touch", touch),
    ("truncate", truncate), ("cp", copy), ("mv", move), ("ln", link), ("chmod", changeMode), ("install", install),
    ("mktemp", makeTemporary), ("ls", list), ("stat", describe), ("readlink", readLink), ("realpath", realPath)]

/-- The programs that work on their own. -/
def plain : List (String × Plain) := ofWords ++ ofContents ++ ofEntries

/-- The programs that start others. -/
def starting : List (String × Starting) :=
  [("env", env), ("timeout", timeout), ("xargs", arguments), ("nohup", starts [] none),
    ("nice", starts ["n/adjustment="] (some "0")), ("stdbuf", starts ["i/input=", "o/output=", "e/error="] none),
    ("setsid", starts ["c/ctty", "f/fork", "w/wait"] none), ("sed", edit),
    ("find", find), ("awk", processRecords), ("mawk", processRecords)]

/-- What the program of a name does. -/
def find? (name : String) : Option Starting := (starting.lookup name).orElse fun _ =>
    (plain.lookup name).map fun p _ => p

end Tool
end LintRun.Shell
