import LintRun.CommandLine.Lint
import LintRun.Report.Stamp
import LintRun.Shell.Host

/-!
# Main

The command. It takes the files below the working directory into a tree, runs `CommandLine.lint` on it, prints
what that prints, and writes back the files that it changed.
-/

namespace LintRun.Main

/-- A file counts as a program if its first line names an interpreter. -/
def isProgram (content : List UInt8) : Bool := content.take 2 == [35, 33]

/-- What an entry of a directory holds; entries that cannot be read are left out. -/
partial def nodeOf (entry : IO.FS.DirEntry) : IO (Option (String × Node)) := do
  try
    match (← entry.path.symlinkMetadata).type with
    | .dir =>
      let entries ← (← entry.path.readDir).toList.filterMapM nodeOf
      return some (entry.fileName, .directory entries)
    | .symlink => return some (entry.fileName, .link (← IO.FS.realPath entry.path).toString)
    | _ =>
      let content := (← IO.FS.readBinFile entry.path).toList
      return some (entry.fileName, .file content (isProgram content))
  catch _ => return none

/-- The tree of the working directory, with the shipped configuration beside it. -/
def snapshot (configuration : Path) : IO FileTree := do
  let here ← IO.currentDir
  let home := (Path.ofString here.toString).parts
  let entries ← (← here.readDir).toList.filterMapM nodeOf
  let tree := (FileTree.ofHome home).put home (.directory entries)
  let withPlace := (tree.makeDirectories configuration).1
  let file := configuration.child Config.defaultName
  return (withPlace.write file Config.shippedText.toUTF8.toList false).toOption.getD withPlace

/-- Writes the files of a tree that are new or changed, below the directory that a path names. -/
partial def save (place : String) (old new : Node) : IO Unit := do
  for (name, node) in new.entries do
    let path := place ++ "/" ++ name
    match node, old.entry? name with
    | .file content _, some (.file before _) =>
      if content != before then IO.FS.writeBinFile path ⟨content.toArray⟩
    | .file content _, _ => IO.FS.writeBinFile path ⟨content.toArray⟩
    | .directory _, some before => save path before node
    | .directory _, none =>
      IO.FS.createDirAll path
      save path (.directory []) node
    | .link _, _ => pure ()

/-- The node of the working directory. -/
def homeNode (t : FileTree) : Node := (t.homeTrail.head?.map Prod.snd).getD (.directory [])

/-- The seconds since the first day of 1970. -/
def now : IO Nat := do
  let process ← IO.FS.realPath "/proc/self"
  return (← process.metadata).modified.sec.toNat

def environment : IO Environment := do
  let entries ← IO.FS.readBinFile "/proc/self/environ"
  return Environment.ofDump (String.ofList (Utf8.decodeLossy entries.toList))

/-- Runs the command on a command line; the answer is the status to exit with. -/
def run (words : List String) : IO Nat := do
  let configuration := Path.ofString "/usr/share/lintrun/config"
  let tree ← snapshot configuration
  let time := Report.stamp (← now)
  let setting : CommandLine.Setting :=
    { source := { tree, directory := configuration }
      shell := Host.shell ⟨tree⟩
      launcher := Host.launcher ⟨tree⟩
      environment := ← environment
      run := Report.runName (← IO.getRandomBytes 16).toList
      started := time
      finished := time }
  let i := CommandLine.lint setting words
  (← IO.getStdout).putStr i.output
  (← IO.getStderr).putStr i.errors
  save (← IO.currentDir).toString (homeNode tree) (homeNode i.tree)
  match i.exit with
  | .ok status => return status
  | .error f =>
    (← IO.getStderr).putStr (f.message ++ "\n")
    return 1

end LintRun.Main

def main (words : List String) : IO UInt32 := do
  return (← LintRun.Main.run words).toUInt32
