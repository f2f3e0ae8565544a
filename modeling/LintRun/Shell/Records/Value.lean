import LintRun.Shell.Encoding
import LintRun.Shell.Format
import LintRun.Shell.Records.Script

/-!
# Shell — The record processor: values

Numbers and texts, and how one is taken for the other.

* `Value.toNumber`, `Value.toText`: a value as a number and as a text.
* `Value.order`: whether a value comes before another one; two numbers by size, others as texts.
* `Number.written`: a number in a format.
-/

namespace LintRun.Shell
namespace Records

/-! ### Numbers -/

namespace Number

/-- A machine number as a whole number times a power of two. -/
def split (x : Float) : Floating :=
  let bits := x.toBits.toNat
  let negative := decide (Nat.pow 2 63 ≤ bits)
  let e : Nat := bits / Nat.pow 2 52 % 2048
  let m : Nat := bits % Nat.pow 2 52
  if e = 2047 then { negative := negative || m ≠ 0, special := some (if m = 0 then "inf" else "nan") }
  else if e = 0 then { negative, mantissa := m, exponent := -1074 }
  else { negative, mantissa := m + Nat.pow 2 52, exponent := (e : Int) - 1075 }

def join (f : Floating) : Float :=
  let size : Float := match f.special with
    | some "inf" => 1.0 / 0.0
    | some _ => 0.0 / 0.0
    | none => (Float.ofNat f.mantissa).scaleB f.exponent
  if f.negative then -size else size

/-- The number without what stands behind the point, if it is a number at all. -/
def whole? (x : Float) : Option Int :=
  let f := split x
  match f.special with
  | some _ => none
  | none =>
    let (n, d) := f.ratio
    let size : Int := (n / d : Nat)
    some (if f.negative then -size else size)

/-- The number without what stands behind the point, no further from zero than words reach. -/
def clamped (x : Float) : Int :=
  match whole? x with
  | some n => max (-Int.pow 2 63 + 1) (min n (Int.pow 2 63 - 1))
  | none => if x < 0 then -Int.pow 2 63 + 1 else if 0 < x then Int.pow 2 63 - 1 else -Int.pow 2 63

/-- The whole number that a number is. -/
def integer? (x : Float) : Option Int :=
  match whole? x with
  | some n => if Float.ofInt n == x then some n else none
  | none => none

/-- What is left of a number after as many others as fit into it. -/
def remainder (x y : Float) : Float :=
  let (a, b) := (split x, split y)
  match a.special, b.special with
  | some _, _ => 0.0 / 0.0
  | none, some "inf" => x
  | none, some _ => 0.0 / 0.0
  | none, none =>
    if b.mantissa = 0 then 0.0 / 0.0
    else
      let e := min a.exponent b.exponent
      let up (f : Floating) : Nat := f.mantissa * Nat.pow 2 (f.exponent - e).toNat
      join { negative := a.negative, mantissa := up a % up b, exponent := e }

/-- The number at the front of a text. -/
def ofText (cs : List Char) : Float :=
  match Floating.read 53 cs with
  | some (f, _) => join f
  | none => 0

/-- Whether a text is a number and nothing else. -/
def isNumber (cs : List Char) : Bool :=
  let (_, body) := Text.takeSign (cs.dropWhile Text.isPlainBlank)
  let starts := match body with
    | '.' :: c :: _ => Text.isAsciiDigit c
    | c :: _ => Text.isAsciiDigit c
    | [] => false
  let hex := match body with
    | '0' :: x :: _ => x = 'x' || x = 'X'
    | _ => false
  starts && !hex && (match Floating.read 53 cs with
    | some (_, rest) => rest.all Text.isPlainBlank
    | none => false)

/-- Bytes as a text. -/
def textOf (bytes : List UInt8) : List Char := Encoding.decode .ascii bytes

/-- A number put into a slot of a format; nothing for a slot of another kind. -/
def fill? (slot : Slot) (x : Float) : Option (List Char) :=
  let alternate (mark : String) (n : Nat) : List Char := if slot.flags.contains '#' && n ≠ 0 then mark.toList else []
  let digits (base n : Nat) : List Char := if n = 0 && slot.precision = some 0 then [] else Nat.toDigits base n
  let natural : Nat := match whole? x with
    | some n => if n < 0 then (max n (-Int.pow 2 63) % Int.pow 2 64).toNat else min n.toNat (Nat.pow 2 64 - 1)
    | none => if 0 < x then Nat.pow 2 64 - 1 else Nat.pow 2 63
  match slot.kind with
  | 'd' | 'i' =>
    let n : Int := match whole? x with
      | some n => if Int.pow 2 63 ≤ n then min n (Int.pow 2 64 - 1) else max n (-Int.pow 2 63 + 1)
      | none => if 0 < x then Int.pow 2 64 - 1 else if x < 0 then -Int.pow 2 63 + 1 else -Int.pow 2 63
    let sign := if n < 0 then ['-'] else if slot.flags.contains '+' then ['+']
      else if slot.flags.contains ' ' then [' '] else []
    some (textOf (padNumber slot sign [] (digits 10 n.natAbs)))
  | 'u' => some (textOf (padNumber slot [] [] (digits 10 natural)))
  | 'o' => some (textOf (padNumber slot [] (alternate "0" natural) (digits 8 natural)))
  | 'x' => some (textOf (padNumber slot [] (alternate "0x" natural) (digits 16 natural)))
  | 'X' => some (textOf (padNumber slot [] (alternate "0X" natural) ((digits 16 natural).map Char.toUpper)))
  | 'e' | 'E' | 'f' | 'F' | 'g' | 'G' => some (textOf (floatingText (.shell .posix) slot (split x)))
  | _ => none

/-- A width or a precision: a number, or one that is taken from the arguments. -/
inductive Measure
  | missing
  | given (n : Nat)
  | argument
  deriving DecidableEq, Repr

/-- A slot whose measures may be among the arguments. -/
structure Shape where
  flags : List Char
  width : Measure
  precision : Measure
  kind : Option Char

def readMeasure (cs : List Char) : Measure × List Char :=
  match cs with
  | '*' :: rest => (.argument, rest)
  | _ =>
    let digits := cs.takeWhile Text.isAsciiDigit
    (if digits.isEmpty then .missing else .given (Text.numberOf 10 digits), cs.drop digits.length)

/-- The shape after a percent sign, and the rest of the format. -/
def readShape (cs : List Char) : Shape × List Char :=
  let flags := cs.takeWhile fun c => "-+ #0".toList.contains c
  let (width, cs) := readMeasure (cs.drop flags.length)
  let (precision, cs) : Measure × List Char := match cs with
    | '.' :: rest =>
      match readMeasure rest with
      | (.missing, rest) => (.given 0, rest)
      | other => other
    | cs => (.missing, cs)
  let cs := cs.dropWhile fun c => c = 'l' || c = 'h'
  ({ flags, width, precision, kind := cs.head? }, cs.drop 1)

/-- A number in a format with slots that all take the number; `fuel` bounds the length. -/
def writtenWithin (x : Float) : Nat → List Char → List Char
  | 0, _ => []
  | _ + 1, [] => []
  | fuel + 1, '%' :: '%' :: rest => '%' :: writtenWithin x fuel rest
  | fuel + 1, '%' :: rest =>
    let (shape, after) := readShape rest
    let size : Measure → Option Nat
      | .given n => some n
      | _ => none
    let slot : Slot :=
      { flags := shape.flags, width := size shape.width, precision := size shape.precision,
        kind := shape.kind.getD ' ' }
    ((fill? slot x).getD []) ++ writtenWithin x fuel after
  | fuel + 1, c :: rest => c :: writtenWithin x fuel rest

/-- A number as a text: whole numbers have all their digits, and others are put into a format. -/
def written (format : String) (x : Float) : String :=
  let digits? : Option Int := match integer? x with
    | some n => if -Int.pow 2 63 ≤ n && n ≤ Int.pow 2 64 then some (min n (Int.pow 2 64 - 1)) else none
    | none => none
  match digits? with
  | some n => toString n
  | none =>
    let cs := format.toList
    String.ofList (writtenWithin x (cs.length + 1) cs)

end Number

/-! ### Values -/

inductive Value
  /-- Nothing has been given yet. -/
  | blank
  | number (x : Float)
  | text (t : String)
  /-- A text from outside, which counts as a number if it looks like one. -/
  | given (t : String)

namespace Value

def ofNat (n : Nat) : Value := .number (Float.ofNat n)

def ofBool (b : Bool) : Value := .number (if b then 1 else 0)

def toNumber : Value → Float
  | .blank => 0
  | .number x => x
  | .text t | .given t => Number.ofText t.toList

/-- The text of a value, with the format for numbers that are not whole. -/
def toText (format : String) : Value → String
  | .blank => ""
  | .number x => Number.written format x
  | .text t | .given t => t

/-- Whether a value counts as a number, if it is one. -/
def number? : Value → Option Float
  | .blank => some 0
  | .number x => some x
  | .text _ => none
  | .given t => if Number.isNumber t.toList then some (Number.ofText t.toList) else none

def isTrue : Value → Bool
  | .blank => false
  | .number x => !(x == 0)
  | .text t => t ≠ ""
  | .given t =>
    match (Value.given t).number? with
    | some x => !(x == 0)
    | none => t ≠ ""

/-- The order of two texts by their bytes. -/
def textOrder : List Char → List Char → Ordering
  | [], [] => .eq
  | [], _ => .lt
  | _, [] => .gt
  | a :: as, b :: bs => if a < b then .lt else if b < a then .gt else textOrder as bs

/-- The order of two values. -/
def order (format : String) (a b : Value) : Ordering :=
  match a.number?, b.number? with
  | some x, some y => if x < y then .lt else if y < x then .gt else .eq
  | _, _ => textOrder (a.toText format).toList (b.toText format).toList

def holds (r : Relation) (o : Ordering) : Bool :=
  match r with
  | .less => o = .lt
  | .lessEqual => o ≠ .gt
  | .equal => o = .eq
  | .different => o ≠ .eq
  | .greater => o = .gt
  | .greaterEqual => o ≠ .lt

end Value
end Records
end LintRun.Shell
