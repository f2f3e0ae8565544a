import LintRun.Failure.Problem

/-!
# Toolchain — Versions

Version strings such as `v10_0_0` or `7.0.1`, ordered by their runs of digits and letters. Digit runs compare
as numbers, letter runs by code points, a letter run comes before a digit run, and whatever separates them
does not count. The string itself breaks ties.

* `Version.key`: what a version is ordered by; a run of too many digits has no key.
* `Version.select`: the greatest of some versions, the last of equals.
-/

namespace LintRun.Version

/-- A run of letters or a number. -/
inductive Part
  | letters (run : List Char)
  | number (n : Nat)
  deriving DecidableEq, Repr

/-- What runs are made of. -/
inductive CharKind
  | digit
  | letter
  | separator
  deriving DecidableEq, Repr

def kindOf (c : Char) : CharKind :=
  if Text.isAsciiDigit c then .digit else if Text.isAsciiLetter c then .letter else .separator

/-- The longest runs of one kind, in order. -/
def runs : List Char → List (CharKind × List Char)
  | [] => []
  | c :: rest =>
    match runs rest with
    | (kind, run) :: others =>
      if kindOf c = kind then (kind, c :: run) :: others else (kindOf c, [c]) :: (kind, run) :: others
    | [] => [(kindOf c, [c])]

/-- The parts of some runs; separators have none, and a number has at most the allowed count of digits. -/
def partsOf : List (CharKind × List Char) → Except ScalarFault (List Part)
  | [] => .ok []
  | (.separator, _) :: rest => partsOf rest
  | (.letter, run) :: rest => (partsOf rest).map (.letters run :: ·)
  | (.digit, run) :: rest =>
    if Text.digitLimit < run.length then .error (.tooManyDigits run.length)
    else (partsOf rest).map (.number (Text.numberOf 10 run) :: ·)

def parts (version : String) : Except ScalarFault (List Part) := partsOf (runs version.toList)

/-- What a version is ordered by. -/
structure Key where
  parts : List Part
  raw : String
  deriving DecidableEq, Repr

def key (version : String) : Except ScalarFault Key := (parts version).map (⟨·, version⟩)

def comparePart : Part → Part → Ordering
  | .letters s, .letters t => Text.compareCodes s t
  | .letters _, .number _ => .lt
  | .number _, .letters _ => .gt
  | .number m, .number n => compare m n

/-- Part by part; a list that runs out first comes first. -/
def compareParts : List Part → List Part → Ordering
  | [], [] => .eq
  | [], _ :: _ => .lt
  | _ :: _, [] => .gt
  | p :: ps, q :: qs => (comparePart p q).then (compareParts ps qs)

def Key.compare (k l : Key) : Ordering :=
  (compareParts k.parts l.parts).then (Text.compareCodes k.raw.toList l.raw.toList)

def Key.le (k l : Key) : Bool := k.compare l != .gt

/-- The keys of some versions, or the fault of the first that has none. -/
def keys : List String → Except ScalarFault (List Key)
  | [] => .ok []
  | v :: rest => do
    let k ← key v
    let ks ← keys rest
    .ok (k :: ks)

/-- The versions in order, equals in the order given. -/
def sort (versions : List String) : Except ScalarFault (List String) :=
  (keys versions).map fun ks => (ks.mergeSort Key.le).map Key.raw

/-- The greater of `best` and the greatest of the rest; a later equal wins. -/
def greatest (best : Key) : List Key → Key
  | [] => best
  | k :: rest => greatest (if best.le k then k else best) rest

/-- The greatest version; among equals the last one. -/
def select (versions : List String) : Outcome String :=
  match keys versions with
  | .error f => stop (.scalar f)
  | .ok [] => report (.missingToolchain .noVersions)
  | .ok (k :: rest) => .ok (greatest k rest).raw

end LintRun.Version
