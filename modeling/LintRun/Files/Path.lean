import LintRun.Text.Blank

/-!
# Files — Paths

Paths in normal form: a root mark and the parts between the slashes, without empty parts and single dots.

* `ofString`, `text`: reading and writing.
* `join`: a path under another one; an absolute path stands for itself.
-/

namespace LintRun

/-- Where a path starts: at the working directory, at the root, or at the root written with two slashes. -/
inductive Path.Root
  | relative
  | absolute
  | doubled
  deriving DecidableEq, Repr

/-- A path in normal form. -/
structure Path where
  root : Path.Root
  parts : List String
  deriving DecidableEq, Repr

namespace Path

def Root.text : Root → String
  | .relative => ""
  | .absolute => "/"
  | .doubled => "//"

/-- Two slashes at the front are kept apart from one; three or more count as one. -/
def rootOf : List Char → Root
  | '/' :: '/' :: '/' :: _ => .absolute
  | '/' :: '/' :: _ => .doubled
  | '/' :: _ => .absolute
  | _ => .relative

/-- The pieces between slashes, as they stand. -/
def pieces (text : List Char) : List String :=
  (Text.splitAt '/' text).map String.ofList

/-- Whether a piece counts as a part: it is not empty and not a single dot. -/
def isPart (piece : String) : Bool := piece ≠ "" && piece ≠ "."

def ofString (text : String) : Path :=
  ⟨rootOf text.toList, (pieces text.toList).filter isPart⟩

/-- The path as text; the path without parts and without a root is a dot. -/
def text (p : Path) : String :=
  if p.root = .relative && p.parts.isEmpty then "."
  else p.root.text ++ Text.joinWith "/" p.parts

/-- The working directory. -/
def here : Path := ⟨.relative, []⟩

def isAbsolute (p : Path) : Bool := p.root ≠ .relative

/-- The last part, or nothing for a path without parts. -/
def name (p : Path) : String := p.parts.getLast?.getD ""

/-- The path without its last part. -/
def parent (p : Path) : Path := { p with parts := p.parts.dropLast }

/-- `q` seen from `p`. -/
def join (p q : Path) : Path :=
  if q.isAbsolute then q else { p with parts := p.parts ++ q.parts }

/-- The path with one more part. -/
def child (p : Path) (part : String) : Path := { p with parts := p.parts ++ [part] }

/-- The ending of a file name: from its last dot on, unless the dot is its first or last character. -/
def ending (p : Path) : String :=
  let cs := p.name.toList
  let tail := cs.reverse.takeWhile (· ≠ '.')
  if tail.length + 1 < cs.length && !tail.isEmpty then String.ofList ('.' :: tail.reverse) else ""

end Path
end LintRun
