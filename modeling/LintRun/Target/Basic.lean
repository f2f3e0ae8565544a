import LintRun.Target.Discovery

/-!
# Target — What to examine

A caller names a file or a directory; the run examines the file, or the source files below the directory.

* `classify`: what a name turns out to be.
* `resolve`: the files to examine, in order, or why there are none.
-/

namespace LintRun

inductive TargetKind
  | singleFile
  | directory
  | invalid
  deriving DecidableEq, Repr

def TargetKind.text : TargetKind → String
  | .singleFile => "single_file"
  | .directory => "directory"
  | .invalid => "invalid"

/-- A name as a path, with what it turned out to be. -/
structure Target where
  path : Path
  kind : TargetKind
  deriving DecidableEq, Repr

/-- The endings of source files and of header files. -/
structure FileEndings where
  sources : List Ending
  headers : List Ending
  deriving DecidableEq, Repr

namespace Target

/-- Links are followed; the empty name is no target. -/
def classify (t : FileTree) (name : String) : Outcome Target :=
  if name = "" then .ok ⟨.here, .invalid⟩
  else
    let path := Path.ofString name
    match t.isDirectory path with
    | .error f => stop (.system f)
    | .ok true => .ok ⟨path, .directory⟩
    | .ok false =>
      match t.isFile path with
      | .error f => stop (.system f)
      | .ok true => .ok ⟨path, .singleFile⟩
      | .ok false => .ok ⟨path, .invalid⟩

/-- The single file, if its name has the ending of a source file. -/
def single (endings : FileEndings) (path : Path) : Outcome (List Path) :=
  match Ending.anyMatches path.name endings.sources with
  | .error f => stop (.kind f)
  | .ok true => .ok [path]
  | .ok false =>
    match Ending.anyMatches path.name endings.headers with
    | .error f => stop (.kind f)
    | .ok true => report (.headerFile path)
    | .ok false => report (.unknownEnding path)

/-- The files that a name stands for. -/
def resolve (t : FileTree) (endings : FileEndings) (name : String) : Outcome (List Path) := do
  let target ← classify t name
  match target.kind with
  | .directory =>
    match Ending.asSet endings.sources with
    | .error f => stop (.kind f)
    | .ok sources => Discovery.collect t target.path sources
  | .singleFile => single endings target.path
  | .invalid => report (.missingTarget name)

end Target
end LintRun
