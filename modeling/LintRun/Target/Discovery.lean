import LintRun.Failure.Problem
import LintRun.Files.Tree

/-!
# Target — Discovery

The files below a directory.

* `belowNode`: every entry below a directory, without passing through links.
* `collect`: those that lead to a regular file and whose name has one of the wanted endings, in the order of
  their path texts.
-/

namespace LintRun

/-- An ending that a file name may have; one that is no text is kept with the name of its kind. -/
inductive Ending
  | text (ending : RawText)
  | other (kind : String) (hashable : Bool)
  deriving DecidableEq, Repr

namespace Ending

def ofValue : Value → Ending
  | .str s => .text s
  | .codes units => .text (.ofCodes units)
  | v => .other v.kindName v.isHashable

def isSuffix (ending : RawText) (name : String) : Bool := ending.units.isSuffixOf (Text.codesOf name.toList)

/-- Whether the name has one of the endings, tried in order; an ending that is no text is a fault once it is
reached. -/
def anyMatches (name : String) : List Ending → Except KindFault Bool
  | [] => .ok false
  | .text ending :: rest => if isSuffix ending name then .ok true else anyMatches name rest
  | .other kind _ :: _ => .error (.endingNotText kind)

/-- The endings as a set: one that cannot be compared is a fault. -/
def asSet : List Ending → Except KindFault (List Ending)
  | [] => .ok []
  | .other kind false :: _ => .error (.notHashable kind)
  | ending :: rest => (asSet rest).map (ending :: ·)

end Ending

namespace Discovery

mutual

/-- The entries below a node, each as the names that lead to it. -/
def belowNode : Node → List (List String)
  | .directory entries => belowEntries entries
  | _ => []

def belowEntries : List (String × Node) → List (List String)
  | [] => []
  | (name, node) :: rest => [name] :: ((belowNode node).map (name :: ·) ++ belowEntries rest)

end

/-- The items that pass a test which may fail. -/
def keepWhere (test : α → Except ε Bool) : List α → Except ε (List α)
  | [] => .ok []
  | x :: rest => do
    let keep ← test x
    let kept ← keepWhere test rest
    .ok (if keep then x :: kept else kept)

/-- Order of paths by their texts. -/
def precedes (p q : Path) : Bool := Text.compareCodes p.text.toList q.text.toList != .gt

/-- Every path below `start`, if that leads to a directory. -/
def below (t : FileTree) (start : Path) : Except SystemFault (List Path) := do
  if ← t.isDirectory start then
    match t.node? start with
    | .ok node => .ok ((belowNode node).map fun names => { start with parts := start.parts ++ names })
    | .error _ => .ok []
  else .ok []

/-- The regular files below `start`, links to such files included. -/
def files (t : FileTree) (start : Path) : Except SystemFault (List Path) := do
  keepWhere t.isFile (← below t start)

/-- The regular files below `start` whose names have one of the endings, or all of them if no ending is given, in
the order of their texts. -/
def collect (t : FileTree) (start : Path) (endings : List Ending) : Outcome (List Path) :=
  match files t start with
  | .error f => stop (.system f)
  | .ok found =>
    let wanted := if endings.isEmpty then .ok found
      else keepWhere (fun p => Ending.anyMatches p.name endings) found
    match wanted with
    | .ok ps => .ok (ps.mergeSort precedes)
    | .error f => stop (.kind f)

end Discovery
end LintRun
