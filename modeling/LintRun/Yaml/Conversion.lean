import LintRun.Decimal.Numeral
import LintRun.Text.Digit
import LintRun.Value.Basic
import LintRun.Yaml.Tag

/-!
# Yaml — Conversion

The value of a scalar: its text as its tag says. A binary scalar is written in base 64; characters outside the alphabet
are passed over, and a full padding ends the text.

* `Binary.decode?`: the bytes of a binary scalar, unless a group is incomplete.
* `scalarOf`: the value of a text by a tag.
-/

namespace LintRun.Yaml

/-! ### Binary scalars -/

namespace Binary

/-- The six bits of a character of the alphabet. -/
def sextet? (c : Char) : Option Nat :=
  if 'A' ≤ c && c ≤ 'Z' then some (c.toNat - 65)
  else if 'a' ≤ c && c ≤ 'z' then some (c.toNat - 71)
  else if Text.isAsciiDigit c then some (c.toNat + 4)
  else if c = '+' then some 62
  else if c = '/' then some 63
  else none

/-- A group of four characters: how many of them are there, and the bits that make no byte yet. -/
structure Group where
  count : Nat
  bits : Nat
  pads : Nat

/-- The bytes from here on, with a group begun. -/
def decodeFrom (g : Group) : List Char → Option (List UInt8)
  | [] => if g.count = 0 then some [] else none
  | '=' :: rest =>
    if g.count < 2 then decodeFrom g rest
    else if 4 ≤ g.count + g.pads + 1 then some []
    else decodeFrom { g with pads := g.pads + 1 } rest
  | c :: rest =>
    match sextet? c with
    | none => decodeFrom g rest
    | some n =>
      match g.count with
      | 0 => decodeFrom ⟨1, n, 0⟩ rest
      | 1 => (decodeFrom ⟨2, n % 16, 0⟩ rest).map (UInt8.ofNat (g.bits * 4 + n / 16) :: ·)
      | 2 => (decodeFrom ⟨3, n % 4, 0⟩ rest).map (UInt8.ofNat (g.bits * 16 + n / 4) :: ·)
      | _ => (decodeFrom ⟨0, 0, 0⟩ rest).map (UInt8.ofNat (g.bits * 64 + n) :: ·)

/-- The bytes of a text, which has to be ASCII. -/
def decode? (text : List Char) : Option (List UInt8) :=
  if text.all (·.toNat < 128) then decodeFrom ⟨0, 0, 0⟩ text else none

end Binary

/-! ### Scalars -/

def fault (f : ScalarFault) : Except Fault α := .error (.scalar f)

/-- Whether a text is a word. -/
def isText (word : String) (text : Text.Codes) : Bool := text = Text.codesOf word.toList

def startsWith (word : String) (text : Text.Codes) : Bool := (Text.codesOf word.toList).isPrefixOf text

/-- The text without the underscores that group digits. -/
def ungrouped (text : Text.Codes) : Text.Codes := text.filter (· ≠ '_'.toNat)

/-- A sign at the front, whether it is a minus, and the rest. A number has at least one character. -/
def signed (text : Text.Codes) : Except Fault (Bool × Text.Codes) :=
  match text with
  | [] => fault .noDigit
  | c :: rest => .ok (c = '-'.toNat, if c = '-'.toNat || c = '+'.toNat then rest else c :: rest)

/-! ### Integers -/

/-- An integer in a base, as a person may type it. -/
def typedInt (base : Nat) (text : Text.Codes) : Except Fault Int :=
  match (Text.charsOf? text).bind (Text.integerDigits? base) with
  | none => fault (.notInteger base text)
  | some (negative, digits) =>
    if base = 10 && Text.digitLimit < digits.length then fault (.tooManyDigits digits.length)
    else
      let n : Int := Text.numberOf base digits
      .ok (if negative then -n else n)

/-- Parts between colons, each sixty times the next. -/
def sixtieths (parts : List Int) : Int := parts.foldl (fun n part => n * 60 + part) 0

def magnitude (text : Text.Codes) : Except Fault Int :=
  if text.isEmpty then fault .noDigit
  else if startsWith "0b" text then typedInt 2 (text.drop 2)
  else if startsWith "0x" text then typedInt 16 (text.drop 2)
  else if startsWith "0" text then typedInt 8 text
  else if text.contains ':'.toNat then do
    let parts ← (Text.splitAt ':'.toNat text).mapM (typedInt 10)
    .ok (sixtieths parts)
  else typedInt 10 text

def intOf (text : Text.Codes) : Except Fault Value := do
  let (negative, body) ← signed (ungrouped text)
  let n ← magnitude body
  .ok (.int (if negative then -n else n))

/-! ### Numbers with a fraction -/

/-- A decimal as a person may type it. -/
def typedFloat (text : Text.Codes) : Except Fault Binary64 :=
  match (Text.charsOf? text).bind Binary64.ofNumeral? with
  | some x => .ok x
  | none => fault (.notNumber text)

/-- The sum of parts, the last of them as it is and each other one with its power of sixty, as long as that is a
number. -/
def sumSixtieths (parts : List Binary64) : Except Fault Binary64 :=
  let step (sum : Binary64 × Int) (part : Binary64) : Except Fault (Binary64 × Int) :=
    match Binary64.ofInt? sum.2 with
    | some weight => .ok (sum.1.add (part.mul weight), sum.2 * 60)
    | none => fault .tooLarge
  (parts.reverse.foldlM step (Binary64.zero false, (1 : Int))).map Prod.fst

/-- A number of a node: what is no number differs from node to node. -/
def ownNumber (node : Nat) (x : Binary64) : Value := .float (if x.isNaN then Binary64.nanOf (node + 1) else x)

def floatOf (node : Nat) (text : Text.Codes) : Except Fault Value := do
  let (negative, body) ← signed (Text.lowerCodes (ungrouped text))
  let withSign (x : Binary64) : Binary64 := if negative then x.negate else x
  if isText ".inf" body then .ok (.float (withSign (.infinity false)))
  else if isText ".nan" body then .ok (.float .nan)
  else if body.contains ':'.toNat then do
    let parts ← (Text.splitAt ':'.toNat body).mapM typedFloat
    .ok (ownNumber node (withSign (← sumSixtieths parts)))
  else do .ok (ownNumber node (withSign (← typedFloat body)))

/-! ### Dates -/

/-- The microseconds of the digits behind a point: six digits count. -/
def microseconds (digits : List Char) : Nat :=
  Text.numberOf 10 ((digits ++ List.replicate 6 '0').take 6)

def calendar (fault? : Option CalendarFault) (v : Value) : Except Fault Value :=
  match fault? with
  | some f => fault (.calendar f)
  | none => .ok v

def timestampOf (text : Text.Codes) : Except Fault Value :=
  match (Text.charsOf? text).bind fun cs => Instant.scan? (withoutFinalBreak cs) with
  | none => fault .notDate
  | some i =>
    match i.time with
    | none => calendar i.date.fault? (.date i.date)
    | some (hour, minute, second, fraction) =>
      let t : Moment := ⟨i.date, hour, minute, second, microseconds fraction, i.zone⟩
      calendar ((i.zone.bind offsetFault?).or t.fault?) (.moment t)

/-! ### All scalars -/

def boolOf (text : Text.Codes) : Except Fault Value :=
  let word := Text.lowerCodes text
  if ["yes", "true", "on"].any fun w => isText w word then .ok (.bool true)
  else if ["no", "false", "off"].any fun w => isText w word then .ok (.bool false)
  else fault (.notTruth word)

/-- The value of the text of a node by its tag, if the tag is one of a scalar. -/
def scalarOf (node : Nat) (tag : Tag) (text : Text.Codes) : Except Fault Value :=
  match tag with
  | .null => .ok .null
  | .bool => boolOf text
  | .int => intOf text
  | .float => floatOf node text
  | .binary =>
    match (Text.charsOf? text).bind Binary.decode? with
    | some bs => .ok (.bytes bs)
    | none => .error .malformed
  | .timestamp => timestampOf text
  | .str => .ok (.ofCodes text)
  | _ => .error .malformed

def isScalarTag : Tag → Bool
  | .null | .bool | .int | .float | .binary | .timestamp | .str => true
  | _ => false

end LintRun.Yaml
