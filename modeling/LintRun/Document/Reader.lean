import LintRun.Failure.Problem
import LintRun.Yaml.Construction
import LintRun.Yaml.Document

/-!
# Document — Readers

Documents in one of two formats, told apart by the ending of the file name.

* `Yaml.read`: the value of a text; its document becomes a graph of nodes, and the nodes become values.
* `Document.read`: the value of a text in a format.
-/

namespace LintRun.Yaml

/-- The value of a text; an empty document has no value. -/
def read (text : List Char) : Except Fault Value := do
  match ← Document.read text with
  | none => .ok .null
  | some (graph, root) => .ok (Construction.assemble (← Construction.run graph root) root)

end LintRun.Yaml

namespace LintRun.Document

inductive Format
  | json
  | yaml
  deriving DecidableEq, Repr

/-- The format of a file: capital letters in the ending do not matter. -/
def formatOf (file : Path) : Format :=
  let ending := Text.lowerAscii file.ending.toList
  if ending = ".yml".toList || ending = ".yaml".toList then .yaml else .json

/-- A document that is malformed, or one with a scalar that cannot be taken over. -/
inductive Fault
  | malformed (cause : DocumentCause)
  | scalar (f : ScalarFault)
  deriving DecidableEq, Repr

def read (format : Format) (text : List Char) : Except Fault Value :=
  match format with
  | .json =>
    match Json.read text with
    | .ok v => .ok v
    | .error (.malformed reason line column offset) => .error (.malformed (.json reason line column offset))
    | .error (.tooManyDigits count) => .error (.scalar (.tooManyDigits count))
  | .yaml =>
    match Yaml.read text with
    | .ok v => .ok v
    | .error .malformed => .error (.malformed .yaml)
    | .error (.scalar f) => .error (.scalar f)

end LintRun.Document
