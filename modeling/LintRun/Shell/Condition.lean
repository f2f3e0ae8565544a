import LintRun.Shell.Arithmetic
import LintRun.Shell.Field
import LintRun.Shell.System

/-!
# Shell — Conditions

What the command `test` says about its arguments.

* `Condition.unary`, `Condition.binary`: the operators.
* `Condition.holds`: the answer, or what is wrong with the arguments; each dialect has its own way to read them.
-/

namespace LintRun.Shell.Condition

/-- What is wrong with a condition. -/
inductive Trouble
  | notInteger (text : String)
  | unaryExpected (text : String)
  | binaryExpected (text : String)
  | argumentExpected (operator : String)
  | unexpected (text : String)
  | tooMany
  | closingExpected (found : Option String)
  | unclosed
  deriving DecidableEq, Repr

def Trouble.message (d : Dialect) : Trouble → String
  | .notInteger text =>
    match d with
    | .bash => text ++ ": integer expression expected"
    | .posix => "Illegal number: " ++ text
  | .unaryExpected text => text ++ ": unary operator expected"
  | .binaryExpected text => text ++ ": binary operator expected"
  | .argumentExpected op => if op = "" then "argument expected" else op ++ ": argument expected"
  | .unexpected text =>
    match d with
    | .bash => "syntax error: \x60" ++ text ++ "' unexpected"
    | .posix => if text = "" then "unexpected operator" else text ++ ": unexpected operator"
  | .tooMany => "too many arguments"
  | .closingExpected found =>
    match d with
    | .bash => "\x60)' expected" ++ match found with
      | some t => ", found " ++ t
      | none => ""
    | .posix => "closing paren expected"
  | .unclosed =>
    match d with
    | .bash => "missing \x60]'"
    | .posix => "missing ]"

abbrev Answer := Except Trouble Bool

/-- The number that a text is, if a shell can hold it. -/
def integer? (text : String) : Option Int :=
  let (negative, digits) := Text.takeSign (Text.trimPlain text.toList)
  if !digits.isEmpty && digits.all Text.isAsciiDigit then
    let n : Int := Text.numberOf 10 digits
    let n := if negative then -n else n
    if -Int.pow 2 63 ≤ n && n < Int.pow 2 63 then some n else none
  else none

def integer (text : String) : Except Trouble Int :=
  match integer? text with
  | some n => .ok n
  | none => .error (.notInteger text)

/-- The operators on one operand in a dialect. -/
def isUnary (d : Dialect) (op : String) : Bool :=
  match op.toList with
  | ['-', c] =>
    match d with
    | .bash => "abcdefghknoprstuvwxzGLNORS".toList.contains c
    | .posix => "rwxefdcbpugkstznhOGLS".toList.contains c
  | _ => false

def isBinary (d : Dialect) (op : String) : Bool :=
  ["=", "!=", "<", ">", "-eq", "-ne", "-lt", "-le", "-gt", "-ge", "-nt", "-ot", "-ef"].contains op ||
    (d = .bash && op = "==")

/-- Whether a variable or an element of one is there. -/
def isSet (s : State) (text : String) : Bool :=
  match text.toList.takeWhile (· ≠ '['), text.toList.dropWhile (· ≠ '[') with
  | name, '[' :: rest =>
    let subscript := String.ofList rest.dropLast
    ((binding? s (String.ofList name)).any fun v =>
      match v.content, subscript with
      | c, "@" | c, "*" => !c.entries.isEmpty
      | .table es, k => ((es.getD []).lookup k).isSome
      | c, k => ((integer? k).bind fun n => c.get? (.number n.toNat)).isSome)
  | _, _ => (parameter s text).isSome

/-- An operator on one operand. -/
def unary (s : State) (op operand : String) : Bool :=
  let kind := fileKind? s.tree operand
  match op with
  | "-n" => operand ≠ ""
  | "-z" => operand = ""
  | "-e" | "-a" | "-r" | "-w" | "-O" | "-G" | "-N" => kind.isSome
  | "-f" => kind.any fun
    | .file _ _ => true
    | _ => false
  | "-d" => kind = some .folder
  | "-c" => kind = some .device
  | "-x" => kind.any fun
    | .file _ executable => executable
    | .folder => true
    | .device => false
  | "-s" => kind.any fun
    | .file size _ => 0 < size
    | .folder => true
    | .device => false
  | "-L" | "-h" => operand ≠ "" && isLink s.tree operand
  | "-v" => isSet s operand
  | "-o" => s.options.contains operand
  | "-R" => (lookVariable s operand).any Variable.reference
  | _ => false

/-- Whether two paths lead to one file. -/
def isSame (t : FileTree) (a b : String) : Bool :=
  match t.locate .target (pathOf a), t.locate .target (pathOf b) with
  | .ok (.present x), .ok (.present y) => FileTree.namesOf x = FileTree.namesOf y
  | _, _ => false

/-- An operator between two operands. -/
def binary (s : State) (op left right : String) : Answer :=
  let compare (test : Int → Int → Bool) : Answer := do
    let a ← integer left
    let b ← integer right
    .ok (test a b)
  let order := Text.compareCodes left.toList right.toList
  match op with
  | "=" | "==" => .ok (left = right)
  | "!=" => .ok (left ≠ right)
  | "<" => .ok (order == .lt)
  | ">" => .ok (order == .gt)
  | "-eq" => compare (· == ·)
  | "-ne" => compare (· != ·)
  | "-lt" => compare (· < ·)
  | "-le" => compare (· ≤ ·)
  | "-gt" => compare (· > ·)
  | "-ge" => compare (· ≥ ·)
  | "-nt" => .ok (s.isBash && (fileKind? s.tree left).isSome && (fileKind? s.tree right).isNone)
  | "-ot" => .ok (s.isBash && (fileKind? s.tree left).isNone && (fileKind? s.tree right).isSome)
  | "-ef" => .ok (isSame s.tree left right)
  | _ => .ok false

/-! ### One dialect: the number of words decides how they are read -/

abbrev Part := Except Trouble (Bool × List String)

mutual

/-- Conditions of which one has to hold. -/
def alternatives (s : State) : Nat → List String → Part
  | 0, _ => .error .tooMany
  | fuel + 1, words => do
    let (a, rest) ← conjunction s fuel words
    match rest with
    | "-o" :: rest =>
      let (b, rest) ← alternatives s fuel rest
      .ok (a || b, rest)
    | _ => .ok (a, rest)

/-- Conditions that have to hold together. -/
def conjunction (s : State) : Nat → List String → Part
  | 0, _ => .error .tooMany
  | fuel + 1, words => do
    let (a, rest) ← term s fuel words
    match rest with
    | "-a" :: rest =>
      let (b, rest) ← conjunction s fuel rest
      .ok (a && b, rest)
    | _ => .ok (a, rest)

def term (s : State) : Nat → List String → Part
  | 0, _ => .error .tooMany
  | fuel + 1, words =>
    match words with
    | [] => .error (.argumentExpected "")
    | "!" :: rest => do
      let (a, rest) ← term s fuel rest
      .ok (!a, rest)
    | "(" :: rest => do
      let (a, rest) ← alternatives s fuel rest
      match rest with
      | ")" :: rest => .ok (a, rest)
      | found :: _ => .error (.closingExpected (some found))
      | [] => .error (.closingExpected none)
    | left :: op :: right :: rest =>
      if isBinary .bash op then (binary s op left right).map (·, rest)
      else if isUnary .bash left then .ok (unary s left op, right :: rest)
      else .ok (left ≠ "", op :: right :: rest)
    | [op, operand] =>
      if isUnary .bash op then .ok (unary s op operand, []) else .ok (op ≠ "", [operand])
    | [word] => .ok (word ≠ "", [])

end

def twoWords (s : State) (a b : String) : Answer :=
  if a = "!" then .ok (b = "")
  else if isUnary .bash a then .ok (unary s a b)
  else .error (.unaryExpected a)

def threeWords (s : State) (a b c : String) : Answer :=
  if isBinary .bash b then binary s b a c
  else if b = "-a" then .ok (a ≠ "" && c ≠ "")
  else if b = "-o" then .ok (a ≠ "" || c ≠ "")
  else if a = "!" then (twoWords s b c).map (!·)
  else if a = "(" && c = ")" then .ok (b ≠ "")
  else .error (.binaryExpected b)

def wholeCondition (s : State) (words : List String) : Answer :=
  match alternatives s (4 * words.length + 8) words with
  | .ok (b, []) => .ok b
  | .ok (_, w :: _) => .error (if w.startsWith "-" then .unexpected w else .tooMany)
  | .error f => .error f

def numberedHolds (s : State) (words : List String) : Answer :=
  match words with
  | [] => .ok false
  | [word] => .ok (word ≠ "")
  | [a, b] => twoWords s a b
  | [a, b, c] => threeWords s a b c
  | [a, b, c, d] =>
    if a = "!" then (threeWords s b c d).map (!·)
    else if a = "(" && d = ")" then twoWords s b c
    else wholeCondition s words
  | _ => wholeCondition s words

/-! ### The other dialect: what an operator is depends on the words behind it -/

/-- What the first of some words is. -/
inductive WordSort
  | ended
  | operand
  | unary
  | binary
  | negation
  | conjunction
  | alternative
  | opening
  | closing
  deriving DecidableEq

def operatorSort? (word : String) : Option WordSort :=
  match word with
  | "!" => some .negation
  | "-a" => some .conjunction
  | "-o" => some .alternative
  | "(" => some .opening
  | ")" => some .closing
  | _ => if isUnary .posix word then some .unary else if isBinary .posix word then some .binary else none

def sortOf (words : List String) : WordSort :=
  match words with
  | [] => .ended
  | word :: rest =>
    let standsAlone : Bool := match rest with
      | [] => true
      | [_] => false
      | next :: third :: _ => operatorSort? next = some .binary && third ≠ ")"
    match operatorSort? word with
    | some .unary => if standsAlone then .operand else .unary
    | some .opening => if rest.isEmpty then .operand else .opening
    | some sort => sort
    | none => .operand

mutual

/-- Conditions of which one has to hold; what is left starts with the last word that was read. -/
def plainAlternatives (s : State) : Nat → List String → Part
  | 0, _ => .error .tooMany
  | fuel + 1, words => do
    let (a, rest) ← plainConjunction s fuel words
    if sortOf (rest.drop 1) = .alternative then
      let (b, rest) ← plainAlternatives s fuel (rest.drop 2)
      .ok (a || b, rest)
    else .ok (a, rest)

def plainConjunction (s : State) : Nat → List String → Part
  | 0, _ => .error .tooMany
  | fuel + 1, words => do
    let (a, rest) ← plainNegation s fuel words
    if sortOf (rest.drop 1) = .conjunction then
      let (b, rest) ← plainConjunction s fuel (rest.drop 2)
      .ok (a && b, rest)
    else .ok (a, rest)

def plainNegation (s : State) : Nat → List String → Part
  | 0, _ => .error .tooMany
  | fuel + 1, words =>
    if sortOf words = .negation then do
      let (a, rest) ← plainNegation s fuel (words.drop 1)
      .ok (!a, rest)
    else plainPrimary s fuel words

def plainPrimary (s : State) : Nat → List String → Part
  | 0, _ => .error .tooMany
  | fuel + 1, words =>
    match sortOf words, words with
    | .ended, _ => .ok (false, words)
    | .opening, _ :: rest =>
      if sortOf rest = .closing then .ok (false, rest)
      else do
        let (a, rest) ← plainAlternatives s fuel rest
        if sortOf (rest.drop 1) = .closing then .ok (a, rest.drop 1) else .error (.closingExpected none)
    | .unary, op :: rest =>
      match rest with
      | operand :: _ => .ok (unary s op operand, rest)
      | [] => .error (.argumentExpected op)
    | _, left :: op :: rest =>
      if operatorSort? op = some .binary then
        match rest with
        | right :: _ => (binary s op left right).map (·, rest)
        | [] => .error (.argumentExpected op)
      else .ok (left ≠ "", words)
    | _, [word] => .ok (word ≠ "", words)
    | _, [] => .ok (false, [])

end

def plainWhole (s : State) (words : List String) : Answer :=
  match plainAlternatives s (4 * words.length + 8) words with
  | .ok (_, w :: _ :: _) => .error (.unexpected w)
  | .ok (b, _) => .ok b
  | .error f => .error f

def plainHolds (s : State) : Nat → List String → Answer
  | 0, _ => .error .tooMany
  | fuel + 1, words =>
    match words with
    | [] => .ok false
    | [_, op, _] =>
      if operatorSort? op = some .binary then plainWhole s words else bracketed fuel words
    | [_, _, _, _] => bracketed fuel words
    | _ => plainWhole s words
where
  bracketed (fuel : Nat) (words : List String) : Answer :=
    match words with
    | "(" :: rest => if rest.getLast? = some ")" then plainWhole s rest.dropLast else plainWhole s words
    | "!" :: rest => (plainHolds s fuel rest).map (!·)
    | _ => plainWhole s words

/-- Whether the condition of these words holds. -/
def holds (s : State) (words : List String) : Answer :=
  match s.dialect with
  | .bash => numberedHolds s words
  | .posix => plainHolds s (words.length + 2) words

end LintRun.Shell.Condition
