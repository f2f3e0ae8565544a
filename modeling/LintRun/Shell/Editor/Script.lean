import LintRun.Shell.Encoding
import LintRun.Shell.Regex

/-!
# Shell — The stream editor: scripts

What a script of the stream editor is made of.

* `Selection`: the lines that a command is for.
* `Action`: what is done with them.
* `Script`: commands in order; a block and a branch name the command that they lead to.
-/

namespace LintRun.Shell
namespace Editor

/-- A regular expression with the style that it was read in. -/
structure Search where
  style : RegexStyle
  regex : Regex

/-- What is searched for; nothing stands for the expression that was used last. -/
abbrev Query := Option Search

/-- A line that a command starts at. -/
inductive Place
  | line (n : Nat)
  /-- The line before the first one. -/
  | top
  | every (first step : Nat)
  | last
  | matching (q : Query)

/-- The line that a range ends with. -/
inductive Bound
  | line (n : Nat)
  | further (n : Nat)
  | multiple (n : Nat)
  | last
  | matching (q : Query)

/-- The lines that a command is for. -/
structure Selection where
  first : Option Place := none
  final : Option Bound := none
  inverted : Bool := false

/-- A change of the case of letters. -/
inductive CaseChange
  | upper
  | lower
  | upperOne
  | lowerOne
  | keep
  deriving DecidableEq, Repr

/-- A piece of what a match is replaced by. -/
inductive Piece
  | text (cs : List Char)
  | group (n : Nat)
  | change (c : CaseChange)

/-- A replacement of matches. -/
structure Substitution where
  query : Query
  pieces : List Piece
  all : Bool := false
  number : Nat := 1
  prints : Bool := false
  runs : Bool := false
  target : Option String := none

inductive Action
  /-- The start of a block, and the command after its end. -/
  | block (past : Nat)
  | nothing
  | number
  | append (text : List Char)
  | insert (text : List Char)
  | change (text : List Char)
  | branch (label : String)
  | branchIf (label : String)
  | branchUnless (label : String)
  | delete
  | deleteLine
  | run (command : List Char)
  | fileName
  | get
  | getAppend
  | hold
  | holdAppend
  | list (width : Option Nat)
  | next
  | nextAppend
  | print
  | printLine
  | quit (status : Nat)
  | quitSilently (status : Nat)
  | readFile (name : String)
  | readLine (name : String)
  | substitute (s : Substitution)
  | write (name : String)
  | writeLine (name : String)
  | exchange
  | transliterate (pairs : List (Char × Char))
  | zap

/-- A command: the lines that it is for, and what it does. -/
structure Step where
  selection : Selection
  action : Action

/-- Commands in order, and the places of the labels. -/
structure Script where
  steps : Array Step := #[]
  labels : List (String × Nat) := []
  /-- Nothing is printed unless a command does so. -/
  quiet : Bool := false

/-- The files that commands write to. -/
def Script.targets (s : Script) : List String :=
  (s.steps.toList.filterMap fun step => match step.action with
    | .write name | .writeLine name => some name
    | .substitute x => x.target
    | _ => none).eraseDups

end Editor
end LintRun.Shell
