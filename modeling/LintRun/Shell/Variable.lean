import LintRun.Shell.Command
import LintRun.Shell.Encoding

/-!
# Shell — Variables

What a variable of a shell holds: a text, a list of texts by number, or a table of texts by name.

* `Content.get?`, `Content.put`, `Content.erase`: single elements.
* `Content.entries`: all elements with their subscripts, in the order in which they are shown.
* `Variable`: a content with its attributes.
-/

namespace LintRun.Shell

/-- The subscript of an element. -/
inductive Key
  | number (n : Nat)
  | name (text : String)
  deriving DecidableEq, Repr

def Key.text : Key → String
  | .number n => toString n
  | .name t => t

/-- What a variable holds; nothing if it is only declared. -/
inductive Content
  | text (value : Option String)
  | list (entries : Option (List (Nat × String)))
  | table (entries : Option (List (String × String)))
  deriving DecidableEq, Repr

namespace Content

/-- The place of a name in a table: names are shown in the order of this checksum, of equal ones the newest first. -/
def bucket (name : String) : Nat :=
  let sum := (Encoding.encode name.toList).foldl (fun (h : UInt32) b => (h * 16777619) ^^^ b.toUInt32) 2166136261
  sum.toNat % 1024

/-- An entry put where its number belongs. -/
def putAt (n : Nat) (value : String) : List (Nat × String) → List (Nat × String)
  | [] => [(n, value)]
  | (m, v) :: rest =>
    if m < n then (m, v) :: putAt n value rest
    else if m = n then (n, value) :: rest
    else (n, value) :: (m, v) :: rest

/-- An entry put under its name; a new one comes first. -/
def putName (name value : String) (entries : List (String × String)) : List (String × String) :=
  if (entries.lookup name).isSome then entries.map fun (n, v) => if n = name then (n, value) else (n, v)
  else (name, value) :: entries

def isSet : Content → Bool
  | .text v => v.isSome
  | .list es => es.isSome
  | .table es => es.isSome

/-- The elements with their subscripts, in the order in which they are shown. -/
def entries : Content → List (Key × String)
  | .text v => (v.map (Key.number 0, ·)).toList
  | .list es => (es.getD []).map fun (n, v) => (.number n, v)
  | .table es =>
    ((es.getD []).mergeSort fun a b => bucket a.1 ≤ bucket b.1).map fun (n, v) => (.name n, v)

def values (c : Content) : List String := c.entries.map Prod.snd

def get? (c : Content) (key : Key) : Option String :=
  match c, key with
  | .text v, .number 0 => v
  | .text v, .name "0" => v
  | .list es, .number n => (es.getD []).lookup n
  | .table es, k => (es.getD []).lookup k.text
  | _, _ => none

/-- The element that counts when no subscript is given. -/
def first? : Content → Option String
  | .text v => v
  | .list es => (es.getD []).lookup 0
  | .table es => (es.getD []).lookup "0"

/-- The content with an element; a text that gets one becomes a list. -/
def put (c : Content) (key : Key) (value : String) : Content :=
  match c, key with
  | .text v, .number n => .list (some (putAt n value ((v.map fun t => (0, t)).toList)))
  | .text _, .name _ => .text (some value)
  | .list es, .number n => .list (some (putAt n value (es.getD [])))
  | .list es, .name _ => .list es
  | .table es, k => .table (some (putName k.text value (es.getD [])))

/-- The content with the element that counts when no subscript is given. -/
def putFirst (c : Content) (value : String) : Content :=
  match c with
  | .text _ => .text (some value)
  | .list _ => c.put (.number 0) value
  | .table _ => c.put (.name "0") value

def erase (c : Content) (key : Key) : Content :=
  match c, key with
  | .list es, .number n => .list (es.map fun es => es.filter fun (m, _) => m ≠ n)
  | .table es, k => .table (es.map fun es => es.filter fun (m, _) => m ≠ k.text)
  | c, _ => c

/-- The number that comes after all others in a list. -/
def nextNumber (c : Content) : Nat :=
  match c with
  | .text v => if v.isSome then 1 else 0
  | .list es => ((es.getD []).getLast?.map fun (n, _) => n + 1).getD 0
  | .table _ => 0

end Content

/-- A content with its attributes. -/
structure Variable where
  content : Content := .text none
  exported : Bool := false
  fixed : Bool := false
  /-- What it gets is an arithmetic expression. -/
  integer : Bool := false
  recasing : Option Recasing := none
  /-- It stands for the variable that it names. -/
  reference : Bool := false
  traced : Bool := false
  deriving DecidableEq, Repr

namespace Variable

def ofText (text : String) : Variable := { content := .text (some text) }

def ofList (texts : List String) : Variable := { content := .list (some (texts.zipIdx.map fun (t, i) => (i, t))) }

def value? (v : Variable) : Option String := v.content.first?

end Variable

/-- The list with the entry of a name changed, or put at the end. -/
def putVariable (name : String) (v : Variable) : List (String × Variable) → List (String × Variable)
  | [] => [(name, v)]
  | (n, w) :: rest => if n = name then (name, v) :: rest else (n, w) :: putVariable name v rest

/-- The list with the state of a variable brought back. -/
def restoreVariable (vs : List (String × Variable)) (old : String × Option Variable) : List (String × Variable) :=
  match old with
  | (name, some v) => putVariable name v vs
  | (name, none) => vs.filter fun (n, _) => n ≠ name

/-- The letters of a text in another case. -/
def recased (r : Recasing) (c : Char) : Char :=
  match r with
  | .upper => c.toUpper
  | .lower => c.toLower
  | .other => if c.isUpper then c.toLower else c.toUpper
  | .capital => c.toUpper

end LintRun.Shell
