import LintRun.Yaml.Cursor

/-!
# Yaml — Tags

What kind of value a node is: by the tag it carries, else, if it is a plain scalar, by the look of its text.

* `Tag.ofPlain`: the tag of a scalar that carries none.
* `Instant.scan?`: a date with an optional time of day.
-/

namespace LintRun.Yaml

inductive Tag
  | null
  | bool
  | int
  | float
  | binary
  | timestamp
  | omap
  | pairs
  | set
  | str
  | seq
  | map
  | merge
  | default
  | unknown
  deriving DecidableEq, Repr

/-- What the names of the common tags start with. -/
def commonTags : String := "tag:yaml.org,2002:"

/-- The common tags by their names. -/
def Tag.named : List (String × Tag) :=
  [("null", .null), ("bool", .bool), ("int", .int), ("float", .float), ("binary", .binary),
    ("timestamp", .timestamp), ("omap", .omap), ("pairs", .pairs), ("set", .set), ("str", .str), ("seq", .seq),
    ("map", .map), ("merge", .merge), ("value", .default)]

/-- The tag of a full name. -/
def Tag.ofName (name : String) : Tag :=
  ((named.find? fun (n, _) => commonTags ++ n = name).map Prod.snd).getD .unknown

/-! ### The look of numbers -/

def isDigitOrBar (c : Char) : Bool := Text.isAsciiDigit c || c = '_'

/-- The digits and underscores after a first digit of a class, and the rest. -/
def digitRun? (first : Char → Bool) : List Char → Option (List Char)
  | [] => none
  | c :: rest => if first c then some (rest.dropWhile isDigitOrBar) else none

/-- One or two digits, less than sixty. -/
def isSixtieth : List Char → Bool
  | [a] => Text.isAsciiDigit a
  | [a, b] => '0' ≤ a && a ≤ '5' && Text.isAsciiDigit b
  | _ => false

/-- One colon at least, with sixtieths behind each. -/
def isSixtieths : List Char → Bool
  | ':' :: rest => (Text.splitAt ':' rest).all isSixtieth
  | _ => false

def unsigned (text : List Char) : List Char := (Text.takeSign text).2

/-- An exponent with a sign, or nothing. -/
def isExponent : List Char → Bool
  | [] => true
  | e :: sign :: ds => (e = 'e' || e = 'E') && (sign = '-' || sign = '+') && !ds.isEmpty && ds.all Text.isAsciiDigit
  | _ => false

def isWord (words : List String) (text : List Char) : Bool := words.any fun w => w.toList = text

/-- An integer in base two, eight, ten or sixteen, or in sixtieths. -/
def looksInt (text : List Char) : Bool :=
  match unsigned text with
  | '0' :: rest =>
    match rest with
    | 'b' :: ds => !ds.isEmpty && ds.all fun c => c = '0' || c = '1' || c = '_'
    | 'x' :: ds => !ds.isEmpty && ds.all fun c => (Text.digitIn? 16 c).isSome || c = '_'
    | ds => ds.all fun c => ('0' ≤ c && c ≤ '7') || c = '_'
  | body =>
    match digitRun? (fun c => '1' ≤ c && c ≤ '9') body with
    | some rest => rest.isEmpty || isSixtieths rest
    | none => false

/-- A number with a point, in tens or with sixtieths before the point, or the name of a special number. A number
without a digit before the point has no sign. -/
def looksFloat (text : List Char) : Bool :=
  let body := unsigned text
  let pointed (rest : List Char) : Bool :=
    match rest with
    | '.' :: tail => isExponent (tail.dropWhile isDigitOrBar)
    | _ => false
  let sixtieths (rest : List Char) : Bool :=
    match Text.cutAt? '.' rest with
    | some (before, after) => isSixtieths before && after.all isDigitOrBar
    | none => false
  let whole := match digitRun? Text.isAsciiDigit body with
    | some rest => pointed rest || sixtieths rest
    | none => false
  let fraction := match text with
    | '.' :: tail =>
      match digitRun? Text.isAsciiDigit tail with
      | some rest => isExponent rest
      | none => false
    | _ => false
  whole || fraction || isWord [".inf", ".Inf", ".INF"] body || isWord [".nan", ".NaN", ".NAN"] text

def looksBool (text : List Char) : Bool :=
  isWord ["yes", "Yes", "YES", "no", "No", "NO", "true", "True", "TRUE", "false", "False", "FALSE",
    "on", "On", "ON", "off", "Off", "OFF"] text

def looksNull (text : List Char) : Bool := isWord ["~", "null", "Null", "NULL", ""] text

/-! ### Dates -/

/-- The parts of a date with an optional time of day and zone, as digits. -/
structure Instant where
  date : Date
  time : Option (Nat × Nat × Nat × List Char)
  zone : Option Int
  /-- Month and day have two digits each. -/
  full : Bool

namespace Instant

/-- One or two digits, and the rest. -/
def shortNumber? : List Char → Option (Nat × Nat × List Char)
  | a :: b :: rest =>
    if !Text.isAsciiDigit a then none
    else if Text.isAsciiDigit b then some (Text.numberOf 10 [a, b], 2, rest)
    else some (Text.numberOf 10 [a], 1, b :: rest)
  | [a] => if Text.isAsciiDigit a then some (Text.numberOf 10 [a], 1, []) else none
  | [] => none

/-- Exactly so many digits, and the rest. -/
def digits? (n : Nat) (text : List Char) : Option (Nat × List Char) :=
  let ds := text.take n
  if ds.length = n && ds.all Text.isAsciiDigit then some (Text.numberOf 10 ds, text.drop n) else none

def after? (c : Char) : List Char → Option (List Char)
  | x :: rest => if x = c then some rest else none
  | [] => none

/-- What separates a time from its date. -/
def separator? (text : List Char) : Option (List Char) :=
  match text with
  | 'T' :: rest | 't' :: rest => some rest
  | c :: rest => if isSpaceOrTab c then some (rest.dropWhile isSpaceOrTab) else none
  | [] => none

/-- A zone: the offset from universal time in seconds, or nothing. -/
def zone? (text : List Char) : Option (Option Int) :=
  if text.isEmpty then some none
  else
    match text.dropWhile isSpaceOrTab with
    | ['Z'] => some (some 0)
    | sign :: rest =>
      if sign = '-' || sign = '+' then do
        let (hours, _, rest) ← shortNumber? rest
        let minutes ←
          match rest with
          | [] => some 0
          | ':' :: rest =>
            match digits? 2 rest with
            | some (n, []) => some n
            | _ => none
          | _ => none
        let seconds : Int := hours * 3600 + minutes * 60
        some (some (if sign = '-' then -seconds else seconds))
      else none
    | [] => none

/-- The time of day: hour, minute, second and the digits of the fraction. -/
def time? (text : List Char) : Option ((Nat × Nat × Nat × List Char) × List Char) := do
  let (hour, _, rest) ← shortNumber? text
  let (minute, rest) ← digits? 2 (← after? ':' rest)
  let (second, rest) ← digits? 2 (← after? ':' rest)
  match rest with
  | '.' :: tail =>
    some ((hour, minute, second, tail.takeWhile Text.isAsciiDigit), tail.dropWhile Text.isAsciiDigit)
  | rest => some ((hour, minute, second, []), rest)

/-- The parts of a date. -/
def scan? (text : List Char) : Option Instant := do
  let (year, rest) ← digits? 4 text
  let (month, m, rest) ← shortNumber? (← after? '-' rest)
  let (day, d, rest) ← shortNumber? (← after? '-' rest)
  let date : Date := ⟨year, month, day⟩
  let full := m = 2 && d = 2
  if rest.isEmpty then some ⟨date, none, none, full⟩
  else
    let (time, rest) ← time? (← separator? rest)
    let zone ← zone? rest
    some ⟨date, some time, zone, full⟩

end Instant

/-- A date written in full, or a date with a time. -/
def looksTimestamp (text : List Char) : Bool :=
  match Instant.scan? text with
  | some i => i.full || i.time.isSome
  | none => false

/-- The tag of a scalar by its look. -/
def Tag.ofLook (text : List Char) : Tag :=
  if looksBool text then .bool
  else if looksFloat text then .float
  else if looksInt text then .int
  else if isWord ["<<"] text then .merge
  else if looksNull text then .null
  else if looksTimestamp text then .timestamp
  else if isWord ["="] text then .default
  else if isWord ["!", "&", "*"] text then .unknown
  else .str

/-- A text without the line feed at its end. -/
def withoutFinalBreak (text : List Char) : List Char :=
  if text.getLast? = some '\n' then text.dropLast else text

/-- The tag of a scalar that goes by its look; a line feed at its end does not count, unless there is nothing else. -/
def Tag.ofPlain (text : Text.Codes) : Tag :=
  match Text.charsOf? text with
  | some ['\n'] | none => .str
  | some text => Tag.ofLook (withoutFinalBreak text)

end LintRun.Yaml
