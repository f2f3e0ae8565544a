/-!
# Shell — Commands

The form of shell scripts: words with their quoting, redirections, and commands.

* `Piece`, `Word`: a word is a list of pieces; it knows the text that it was read from.
* `Assignment`, `Redirect`: what stands in front of a command or within it.
* `Judgement`: a condition between double brackets.
* `Command`: everything that can be run.
-/

namespace LintRun.Shell

/-- When a parameter gives way to a word. -/
inductive Fallback
  /-- The word stands in for a missing value. -/
  | value
  /-- The word becomes the value. -/
  | assign
  /-- The word replaces a value that is there. -/
  | alternative
  /-- The word says what is wrong. -/
  | complaint
  deriving DecidableEq, Repr

/-- Which parts of a value that match a pattern are replaced. -/
inductive Scope
  | first
  | every
  | front
  | back
  deriving DecidableEq, Repr

/-- What becomes of the letters of a value. -/
inductive Recasing
  | upper
  | lower
  | other
  /-- The first letter becomes large, the others small. -/
  | capital
  deriving DecidableEq, Repr

/-- Where the output or the input of a command goes. -/
inductive Direction
  | read
  | write (force : Bool)
  | append
  /-- Reading and writing. -/
  | update
  /-- As another descriptor of the input. -/
  | copyIn
  /-- As another descriptor of the output. -/
  | copyOut
  /-- Both outputs. -/
  | both (append : Bool)
  /-- A text in the lines below, up to this one. -/
  | text (delimiter : String) (dedent quoted : Bool)
  /-- A text on the line itself. -/
  | line
  deriving DecidableEq, Repr

/-- What a redirection is about: a number, or a variable that takes a free one. -/
inductive Handle
  | number (n : Nat)
  | variable (name : String)
  deriving DecidableEq, Repr

/-- How a clause of a choice goes on after its commands. -/
inductive ClauseEnd
  | stop
  /-- The commands of the next clause are run. -/
  | fallThrough
  /-- The patterns of the next clauses are tried. -/
  | tryNext
  deriving DecidableEq, Repr

mutual

/-- A part of a word. What stands between quotes is neither split nor a pattern. -/
inductive Piece
  | text (chars : List Char) (quoted : Bool)
  | parameter (target : Parameter) (use : Use) (quoted : Bool)
  /-- The names of the variables that start like this. -/
  | names (start : String) (joined quoted : Bool)
  /-- What commands write. -/
  | output (body : List Command) (quoted : Bool)
  /-- The same for commands between backquotes, which are read when they are run. -/
  | script (text : List Char) (quoted : Bool)
  | arithmetic (body : List Piece) (quoted : Bool)
  /-- A file that commands write or read while it is used. -/
  | process (reads : Bool) (body : List Command)
  /-- A parameter that nothing can be made of. -/
  | broken (source : String)

/-- A parameter, or the one that its value names. -/
inductive Parameter
  | mk (name : String) (subscript : Subscript) (indirect : Bool)

inductive Subscript
  | none
  /-- All elements; they may be joined to one text. -/
  | every (joined : Bool)
  | at (index : List Piece) (source : String)

/-- What is made of the value of a parameter. -/
inductive Use
  | plain
  | length
  /-- The subscripts in the place of the elements. -/
  | keys
  | fallback (kind : Fallback) (emptyToo : Bool) (word : List Piece)
  | cut (fromStart longest : Bool) (pattern : List Piece)
  | slice (start : List Piece) (size : Option (List Piece))
  | replace (scope : Scope) (pattern replacement : List Piece)
  | recase (recasing : Recasing) (all : Bool) (pattern : List Piece)
  | transform (letter : Char)

inductive Word
  | mk (source : List Char) (pieces : List Piece)

/-- An element in a list of values, with its subscript if one is given. -/
inductive Item
  | mk (subscript : Option Word) (append : Bool) (value : Word)

inductive Assigned
  | word (w : Word)
  | list (items : List Item)

inductive Assignment
  | mk (name : String) (subscript : Option Word) (append : Bool) (value : Assigned) (source : List Char)

/-- A word of a command; after a declaring command it may be an assignment. -/
inductive Argument
  | word (w : Word)
  | assignment (a : Assignment)

inductive Redirect
  | mk (handle : Option Handle) (direction : Direction) (target : Word)

/-- A condition between double brackets. -/
inductive Judgement
  | word (w : Word)
  | unary (operator : String) (operand : Word)
  | binary (operator : String) (left right : Word)
  | negated (j : Judgement)
  | grouped (j : Judgement)
  | both (first second : Judgement)
  | either (first second : Judgement)

inductive Command
  | simple (line : Nat) (assignments : List Assignment) (words : List Argument) (redirects : List Redirect)
  | redirected (line : Nat) (body : Command) (redirects : List Redirect)
  | group (body : List Command)
  | subshell (body : List Command)
  | branch (clauses : List (List Command × List Command)) (otherwise : List Command)
  | loop (onSuccess : Bool) (condition body : List Command)
  | each (line : Nat) (name : String) (words : Option (List Word)) (body : List Command)
  /-- A loop that asks for one of the words. -/
  | menu (line : Nat) (name : String) (words : Option (List Word)) (body : List Command)
  /-- A loop with three expressions: before it, as its condition, and after each round. -/
  | count (line : Nat) (start test step : Word) (body : List Command)
  | select (line : Nat) (word : Word) (clauses : List (List Word × List Command × ClauseEnd))
  | calculate (line : Nat) (expression : Word)
  | judge (line : Nat) (condition : Judgement)
  | define (line : Nat) (name : String) (body : Command)
  | pipeline (negated : Bool) (stages : List Command)
  | timed (plain : Bool) (body : Command)
  | both (first second : Command)
  | either (first second : Command)
  | background (body : Command)

end

instance : Inhabited Command := ⟨.group []⟩
instance : Inhabited Word := ⟨.mk [] []⟩

namespace Word

def source : Word → List Char
  | .mk s _ => s

def pieces : Word → List Piece
  | .mk _ ps => ps

/-- A word that stands for a text as it is. -/
def ofText (text : String) : Word := .mk text.toList [.text text.toList true]

/-- The text of a word that is written without quotes and expansions. -/
def plain? : Word → Option String
  | .mk _ [.text cs false] => some (String.ofList cs)
  | _ => none

end Word

/-- Neighbouring texts of one quoting joined. -/
def joinTexts : List Piece → List Piece
  | [] => []
  | .text a q :: rest =>
    match joinTexts rest with
    | .text b r :: more => if q = r then .text (a ++ b) q :: more else .text a q :: .text b r :: more
    | more => .text a q :: more
  | piece :: rest => piece :: joinTexts rest

end LintRun.Shell
