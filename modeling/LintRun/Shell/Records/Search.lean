import LintRun.Shell.Encoding
import LintRun.Shell.Records.Script

/-!
# Shell — The record processor: searches

Regular expressions as scripts write them, and what is done with their matches.

* `Search.read`: the expression of a text, or what is wrong with it.
* `Search.split`: the parts between matches.
* `Search.replace`: a text with matches replaced.
-/

namespace LintRun.Shell
namespace Records
namespace Search

/-- Why an expression is malformed. -/
inductive Fault
  | missingOperand
  | missingBracket
  | badClass
  deriving DecidableEq, Repr

def Fault.message : Fault → String
  | .missingOperand => "missing operand"
  | .missingBracket => "missing ')'"
  | .badClass => "bad class -- [], [^] or ["

/-! ### Reading -/

/-- The character of an escape, and the rest. -/
def readEscape (cs : List Char) : Char × List Char :=
  match cs with
  | [] => ('\\', [])
  | c :: rest =>
    let octal := (cs.take 3).takeWhile fun d => (Text.digitIn? 8 d).isSome
    let single (b : Nat) : Char := Encoding.single (UInt8.ofNat (b % 256))
    if !octal.isEmpty then (single (Text.numberOf 8 octal), cs.drop octal.length)
    else match c with
      | 'n' => ('\n', rest)
      | 't' => ('\t', rest)
      | 'f' => ('\x0c', rest)
      | 'b' => ('\x08', rest)
      | 'r' => ('\r', rest)
      | 'a' => ('\x07', rest)
      | 'v' => ('\x0b', rest)
      | 'x' =>
        let digits := (rest.take 2).takeWhile fun d => (Text.digitIn? 16 d).isSome
        if digits.isEmpty then (c, rest) else (single (Text.numberOf 16 digits), rest.drop digits.length)
      | c => (c, rest)

/-- The ranges up to the closing bracket, and the rest. -/
def readSet (first : Bool) : Nat → List Char → Option (List (Char × Char) × List Char)
  | 0, _ | _, [] => none
  | fuel + 1, c :: rest =>
    if c = ']' && !first then some ([], rest)
    else
      let named : Option (List (Char × Char) × List Char) := match c, rest with
        | '[', ':' :: more =>
          let name := more.takeWhile Text.isAsciiLetter
          match more.drop name.length with
          | ':' :: ']' :: after => (Pattern.classRanges.lookup (String.ofList name)).map fun ranges => (ranges, after)
          | _ => none
        | _, _ => none
      match named with
      | some (ranges, after) => (readSet false fuel after).map fun (more, r) => (ranges ++ more, r)
      | none =>
        if c = '[' && rest.head? = some ':' && (rest.drop 1).any (· = ':') then none
        else
          let (low, rest) := if c = '\\' then readEscape rest else (c, rest)
          match rest with
          | '-' :: high :: after =>
            if high = ']' then (readSet false fuel rest).map fun (more, r) => ((low, low) :: more, r)
            else
              let (high, after) := if high = '\\' then readEscape after else (high, after)
              (readSet false fuel after).map fun (more, r) => ((low, high) :: more, r)
          | _ => (readSet false fuel rest).map fun (more, r) => ((low, low) :: more, r)

/-- The bounds of a repetition in braces, and the rest, if it is one. -/
def bounds? (cs : List Char) : Option (Nat × Option Nat × List Char) :=
  let low := cs.takeWhile Text.isAsciiDigit
  match low, cs.drop low.length with
  | [], ',' :: more =>
    let high := more.takeWhile Text.isAsciiDigit
    match high, more.drop high.length with
    | _ :: _, '}' :: rest => some (0, some (Text.numberOf 10 high), rest)
    | _, _ => none
  | [], _ => none
  | _, '}' :: rest => some (Text.numberOf 10 low, some (Text.numberOf 10 low), rest)
  | _, ',' :: more =>
    let high := more.takeWhile Text.isAsciiDigit
    match more.drop high.length with
    | '}' :: rest => some (Text.numberOf 10 low, if high.isEmpty then none else some (Text.numberOf 10 high), rest)
    | _ => none
  | _, _ => none

/-- The operators after an expression. -/
def readRepeats : Nat → Regex → List Char → Regex × List Char
  | 0, r, cs => (r, cs)
  | fuel + 1, r, cs =>
    match cs with
    | '*' :: rest => readRepeats fuel (.repeated r 0 none) rest
    | '+' :: rest => readRepeats fuel (.repeated r 1 none) rest
    | '?' :: rest => readRepeats fuel (.repeated r 0 (some 1)) rest
    | '{' :: rest =>
      match bounds? rest with
      | some (low, high, rest) => readRepeats fuel (.repeated r low high) rest
      | none => (r, cs)
    | _ => (r, cs)

mutual

def readAlternatives (depth : Nat) : Nat → List Char → Except Fault (Regex × List Char)
  | 0, _ => .error .missingOperand
  | fuel + 1, cs => do
    let (first, rest) ← readSequence depth fuel cs
    match rest with
    | '|' :: rest => do
      let (second, rest) ← readAlternatives depth fuel rest
      .ok (.either first second, rest)
    | _ => .ok (first, rest)
  termination_by structural fuel => fuel

/-- Expressions one after another, at least one of them. -/
def readSequence (depth : Nat) : Nat → List Char → Except Fault (Regex × List Char)
  | 0, _ => .error .missingOperand
  | fuel + 1, cs => do
    let (atom, rest) ← readAtom depth fuel cs
    let (first, rest) := readRepeats (rest.length + 1) atom rest
    match rest with
    | [] | '|' :: _ => .ok (first, rest)
    | ')' :: _ =>
      if 0 < depth then .ok (first, rest)
      else do
        let (second, rest) ← readSequence depth fuel rest
        .ok (.both first second, rest)
    | _ => do
      let (second, rest) ← readSequence depth fuel rest
      .ok (.both first second, rest)
  termination_by structural fuel => fuel

def readAtom (depth : Nat) : Nat → List Char → Except Fault (Regex × List Char)
  | 0, _ => .error .missingOperand
  | fuel + 1, cs =>
    match cs with
    | [] | '*' :: _ | '+' :: _ | '?' :: _ | '|' :: _ => .error .missingOperand
    | ['('] => .error .missingBracket
    | '(' :: rest => do
      let (inner, rest) ← readAlternatives (depth + 1) fuel rest
      match rest with
      | ')' :: rest => .ok (inner, rest)
      | _ => .error .missingBracket
    | ')' :: rest => if 0 < depth then .error .missingOperand else .ok (.char ')', rest)
    | '.' :: rest => .ok (.any, rest)
    | '^' :: rest => .ok (.anchor .top, rest)
    | '$' :: rest => .ok (.anchor .bottom, rest)
    | '[' :: rest =>
      let (negated, body) := match rest with
        | '^' :: body => (true, body)
        | _ => (false, rest)
      match readSet true (body.length + 1) body with
      | some (ranges, rest) => .ok (.set negated ranges, rest)
      | none => .error .badClass
    | '\\' :: rest =>
      let (c, rest) := readEscape rest
      .ok (.char c, rest)
    | c :: rest => .ok (.char c, rest)
  termination_by structural fuel => fuel

end

/-- The expression of a text, or what is wrong with it. -/
def read (cs : List Char) : Except Fault Regex :=
  if cs.isEmpty then .ok .nothing
  else do
    let (r, _) ← readAlternatives 0 (4 * cs.length + 8) cs
    .ok r

/-! ### Matches -/

def style : RegexStyle := { extended := true }

/-- The ends of the first match from a place on. -/
def find? (r : Regex) (text : Array Char) (start : Nat) : Option (Nat × Nat) :=
  let endAt? (p : Nat) : Option (Nat × Nat) := ((Regex.reach style false text r [(p, [])]).head?).map fun spot =>
    (p, spot.1)
  Pattern.atFirst? endAt? (text.size + 1 - start) start

def occursIn (r : Regex) (text : String) : Bool := (find? r text.toList.toArray 0).isSome

/-- The first match from a place on that is not empty. -/
def findFilled? (r : Regex) (text : Array Char) : Nat → Nat → Option (Nat × Nat)
  | 0, _ => none
  | fuel + 1, start =>
    match find? r text start with
    | some (a, b) => if a < b then some (a, b) else findFilled? r text fuel (a + 1)
    | none => none

/-- The parts of a text between matches that are not empty; `fuel` bounds their number. -/
def splitFrom (r : Regex) (text : Array Char) : Nat → Nat → List String
  | 0, _ => []
  | fuel + 1, start =>
    let part (stop : Nat) : String := String.ofList (text.extract start stop).toList
    match findFilled? r text (text.size + 1 - start) start with
    | some (a, b) => part a :: splitFrom r text fuel b
    | none => [part text.size]

def split (r : Regex) (text : String) : List String :=
  let cs := text.toList.toArray
  if cs.isEmpty then [] else splitFrom r cs (cs.size + 1) 0

/-! ### Replacements -/

/-- A piece of what a match is replaced by; nothing stands for the match itself. -/
abbrev Piece := Option (List Char)

/-- The pieces of a replacement: `&` stands for the match unless an odd number of backslashes is in front of it, of
which two stand for one. `n` counts the backslashes that have been passed. -/
def piecesAfter (n : Nat) : List Char → List Piece
  | [] => [some (List.replicate n '\\')]
  | '\\' :: rest => piecesAfter (n + 1) rest
  | '&' :: rest => some (List.replicate (n / 2) '\\') :: (if n % 2 = 1 then some ['&'] else none) :: piecesAfter 0 rest
  | c :: rest => some (List.replicate n '\\' ++ [c]) :: piecesAfter 0 rest

def pieces (cs : List Char) : List Piece := piecesAfter 0 cs

/-- Replaces matches from a place on. `after` is where the last one that was not empty has ended. The answer is the
parts of the new text, the last ones first, and the number of matches. -/
def replaceFrom (r : Regex) (ps : List Piece) (all : Bool) (text : Array Char) :
    Nat → Nat → Option Nat → Nat → List (List Char) → List (List Char) × Nat
  | 0, start, _, n, out => ((text.extract start text.size).toList :: out, n)
  | fuel + 1, start, after, n, out =>
    let rest : List Char := (text.extract start text.size).toList
    match find? r text start with
    | none => (rest :: out, n)
    | some (a, b) =>
      let before : List Char := (text.extract start a).toList
      let one : List Char := (text.extract a (a + 1)).toList
      let new : List Char := ps.flatMap fun p => p.getD (text.extract a b).toList
      if a = b && after = some a then
        if text.size ≤ a then (rest :: out, n) else replaceFrom r ps all text fuel (a + 1) none n (one :: before :: out)
      else if !all then ((text.extract b text.size).toList :: new :: before :: out, n + 1)
      else if a = b then
        if text.size ≤ a then (new :: before :: out, n + 1)
        else replaceFrom r ps all text fuel (a + 1) none (n + 1) (one :: new :: before :: out)
      else replaceFrom r ps all text fuel b (some b) (n + 1) (new :: before :: out)

/-- A text with the first match or all of them replaced, and their number. -/
def replace (r : Regex) (replacement : String) (all : Bool) (text : String) : String × Nat :=
  let cs := text.toList.toArray
  let (parts, n) := replaceFrom r (pieces replacement.toList) all cs (2 * cs.size + 3) 0 none 0 []
  (String.ofList parts.reverse.flatten, n)

end Search
end Records
end LintRun.Shell
