import LintRun.Shell.Regex

/-!
# Shell — The record processor: scripts

What a script is made of that goes through records and their fields.

* `Expr`, `Statement`: what is computed and what is done.
* `Rule`: the records that something is done for.
* `Script`: rules in order, and functions.
-/

namespace LintRun.Shell
namespace Records

inductive Operation
  | add
  | subtract
  | multiply
  | divide
  | remainder
  | power
  deriving DecidableEq, Repr

inductive Relation
  | less
  | lessEqual
  | equal
  | different
  | greater
  | greaterEqual
  deriving DecidableEq, Repr

/-- The functions that every script has. -/
inductive Builtin
  | length
  | index
  | substring
  | split
  | locate
  | substitute (all : Bool)
  | formatted
  | upper
  | lower
  | sine
  | cosine
  | arctangent
  | exponential
  | logarithm
  | root
  | whole
  | random
  | seed
  | system
  | close
  | flush
  | time
  | timeText
  | makeTime
  deriving DecidableEq, Repr

/-- Where a record is read from. -/
inductive Source
  | input
  | file
  | command
  deriving DecidableEq, Repr

inductive Expr
  | number (x : Float)
  | text (t : String)
  | regex (r : Regex)
  | named (name : String)
  | element (array : String) (keys : List Expr)
  | field (index : Expr)
  | assign (operation : Option Operation) (target value : Expr)
  | conditional (test yes no : Expr)
  | either (a b : Expr)
  | both (a b : Expr)
  | negated (a : Expr)
  | minus (a : Expr)
  | plus (a : Expr)
  | compare (r : Relation) (a b : Expr)
  | search (negated : Bool) (text pattern : Expr)
  | contains (keys : List Expr) (array : String)
  | chained (a b : Expr)
  | calculate (o : Operation) (a b : Expr)
  /-- One more or one less; the value is the old one or the new one. -/
  | step (up : Bool) (new : Bool) (target : Expr)
  | call (name : String) (arguments : List Expr)
  | builtin (f : Builtin) (arguments : List Expr)
  /-- Reads a record, from the source of a name, into the record or something else. -/
  | take (source : Source) (name : Option Expr) (target : Option Expr)

/-- Where a statement prints to. -/
inductive Target
  | file (append : Bool) (name : Expr)
  | command (text : Expr)

inductive Statement
  | expression (e : Expr)
  | print (arguments : List Expr) (target : Option Target)
  | printFormatted (arguments : List Expr) (target : Option Target)
  | block (ss : List Statement)
  | conditional (test : Expr) (yes no : Statement)
  | loop (test : Expr) (body : Statement)
  /-- The test is made after each round. -/
  | loopAfter (body : Statement) (test : Expr)
  | count (start test next : Option Expr) (body : Statement)
  | each (name array : String) (body : Statement)
  | leaveLoop
  | nextRound
  | nextRecord
  | nextFile
  | finish (status : Option Expr)
  | giveBack (value : Option Expr)
  | erase (array : String) (keys : List Expr)
  | eraseAll (array : String)

/-- When something is done. -/
inductive When
  | before
  | after
  | always
  | on (test : Expr)
  | between (first last : Expr)

structure Rule where
  moment : When
  action : Statement

structure Function where
  parameters : List String
  body : Statement

structure Script where
  rules : List Rule := []
  functions : List (String × Function) := []

/-- Whether something can be given a value. -/
def Expr.isPlace : Expr → Bool
  | .named _ | .element _ _ | .field _ => true
  | _ => false

end Records
end LintRun.Shell
