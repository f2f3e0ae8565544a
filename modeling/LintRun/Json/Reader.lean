import LintRun.Value.Basic

/-!
# Json — Reader

Reading a JSON text as a value. The words for infinities and for what is not a number are accepted, integers
have any size up to the digit limit, and a repeated key keeps its first place with its last value.

* `read`: the value of a whole text, or what is wrong with it and where.
* `Fault.message`: the fault in words, with line, column and offset counted in characters.
-/

namespace LintRun.Json

/-- What was expected, or what was found amiss. -/
inductive Reason
  | value
  | extraData
  | byteOrderMark
  | propertyName
  | colon
  | comma
  | unterminated
  | escape
  | unicodeEscape
  | control
  deriving DecidableEq, Repr

/-- A fault while reading: `remaining` counts the characters from the place of the fault to the end. -/
inductive ReadFault
  | malformed (reason : Reason) (remaining : Nat)
  | tooManyDigits (count : Nat)
  deriving DecidableEq, Repr

def fail (reason : Reason) (rest : List Char) : Except ReadFault α :=
  .error (.malformed reason rest.length)

def isSpace (c : Char) : Bool := c = ' ' || c = '\t' || c = '\n' || c = '\r'

def skipSpace (text : List Char) : List Char := text.dropWhile isSpace

/-- The number of four hexadecimal digits. -/
def hexUnit? (a b c d : Char) : Option Nat :=
  if [a, b, c, d].all fun x => (Text.digitIn? 16 x).isSome then some (Text.numberOf 16 [a, b, c, d]) else none

def isHighSurrogate (n : Nat) : Bool := 0xD800 ≤ n && n < 0xDC00
def isLowSurrogate (n : Nat) : Bool := 0xDC00 ≤ n && n < 0xE000

/-- The code point of a surrogate pair. -/
def pairCode (high low : Nat) : Nat := 0x10000 + (high - 0xD800) * 0x400 + (low - 0xDC00)

/-- The character of an escape of one letter. -/
def escapeChar? : Char → Option Char
  | '"' => some '"'
  | '\\' => some '\\'
  | '/' => some '/'
  | 'b' => some '\x08'
  | 'f' => some '\x0c'
  | 'n' => some '\n'
  | 'r' => some '\r'
  | 't' => some '\t'
  | _ => none

/-- The code points of a text up to its closing quote; `start` counts the characters from the opening quote to
the end. A unicode escape has to have at least one more character behind its digits, and an escape of a high
surrogate joins with the one of a low surrogate right behind it; any other surrogate stays alone. -/
def readChars (start : Nat) : List Char → Except ReadFault (Text.Codes × List Char)
  | [] => .error (.malformed .unterminated start)
  | '"' :: rest => .ok ([], rest)
  | '\\' :: rest =>
    match rest with
    | [] => .error (.malformed .unterminated start)
    | 'u' :: rest₁ =>
      match rest₁ with
      | a :: b :: c :: d :: rest₂ =>
        match hexUnit? a b c d with
        | none => fail .unicodeEscape ('u' :: a :: b :: c :: d :: rest₂)
        | some n =>
          if rest₂.isEmpty then fail .unicodeEscape ('u' :: a :: b :: c :: d :: rest₂)
          else if isHighSurrogate n then
            match rest₂ with
            | '\\' :: 'u' :: e :: f :: g :: h :: next :: rest₃ =>
              match hexUnit? e f g h with
              | none => fail .unicodeEscape ('u' :: e :: f :: g :: h :: next :: rest₃)
              | some m =>
                if isLowSurrogate m then
                  (readChars start (next :: rest₃)).map fun (cs, r) => (pairCode n m :: cs, r)
                else
                  (readChars start ('\\' :: 'u' :: e :: f :: g :: h :: next :: rest₃)).map
                    fun (cs, r) => (n :: cs, r)
            | rest₂ => (readChars start rest₂).map fun (cs, r) => (n :: cs, r)
          else (readChars start rest₂).map fun (cs, r) => (n :: cs, r)
      | rest₁ => fail .unicodeEscape ('u' :: rest₁)
    | c :: rest₁ =>
      match escapeChar? c with
      | some e => (readChars start rest₁).map fun (cs, r) => (e.toNat :: cs, r)
      | none => fail .escape ('\\' :: c :: rest₁)
  | c :: rest =>
    if c.toNat < 32 then fail .control (c :: rest)
    else (readChars start rest).map fun (cs, r) => (c.toNat :: cs, r)
  termination_by text => text.length

/-- An integer of at most the allowed count of digits. -/
def integer (negative : Bool) (digits : List Char) : Except ReadFault Value :=
  if Text.digitLimit < digits.length then .error (.tooManyDigits digits.length)
  else
    let n : Int := Text.numberOf 10 digits
    .ok (.int (if negative then -n else n))

/-- The digits before the point: a zero alone, or digits that do not start with one. -/
def wholeDigits : List Char → List Char × List Char
  | '0' :: rest => (['0'], rest)
  | text => (text.takeWhile Text.isAsciiDigit, text.dropWhile Text.isAsciiDigit)

/-- A point with at least one digit after it. -/
def fractionDigits : List Char → List Char × List Char
  | '.' :: rest =>
    match rest.takeWhile Text.isAsciiDigit with
    | [] => ([], '.' :: rest)
    | ds => (ds, rest.dropWhile Text.isAsciiDigit)
  | text => ([], text)

/-- An exponent with at least one digit. -/
def exponentPart : List Char → Option Int × List Char
  | e :: rest =>
    if e = 'e' || e = 'E' then
      let (negative, tail) := Text.takeSign rest
      match tail.takeWhile Text.isAsciiDigit with
      | [] => (none, e :: rest)
      | ds =>
        let n : Int := Text.numberOf 10 ds
        (some (if negative then -n else n), tail.dropWhile Text.isAsciiDigit)
    else (none, e :: rest)
  | [] => (none, [])

/-- A number: an integer, or with a fraction or an exponent a double-precision number. -/
def readNumber (text : List Char) : Except ReadFault (Value × List Char) :=
  let (negative, body) := match text with
    | '-' :: rest => (true, rest)
    | _ => (false, text)
  match wholeDigits body with
  | ([], _) => fail .value text
  | (whole, rest) =>
    let (fraction, rest) := fractionDigits rest
    match fraction, exponentPart rest with
    | [], (none, rest) => (integer negative whole).map (·, rest)
    | fraction, (exponent, rest) =>
      .ok (.float (Numeral.value ⟨negative, whole, fraction, exponent.getD 0⟩), rest)

/-- The words that stand for values. -/
def words : List (List Char × Value) :=
  [("null".toList, .null), ("true".toList, .bool true), ("false".toList, .bool false),
    ("NaN".toList, .float Binary64.nan), ("Infinity".toList, .float (Binary64.infinity false)),
    ("-Infinity".toList, .float (Binary64.infinity true))]

/-- A word at the front of the text. -/
def readWord? (text : List Char) : Option (Value × List Char) :=
  (words.find? fun (w, _) => w.isPrefixOf text).map fun (w, v) => (v, text.drop w.length)

mutual

/-- A value at the front of the text. `fuel` bounds the number of nested values and of values in a row. -/
def readValue : Nat → List Char → Except ReadFault (Value × List Char)
  | 0, text => fail .value text
  | fuel + 1, text =>
    match text with
    | '"' :: rest => (readChars text.length rest).map fun (cs, r) => (.ofCodes cs, r)
    | '[' :: rest =>
      match skipSpace rest with
      | ']' :: rest => .ok (.list [], rest)
      | rest => (readItems fuel rest).map fun (items, r) => (.list items, r)
    | '\x7b' :: rest =>
      match skipSpace rest with
      | '\x7d' :: rest => .ok (.map [], rest)
      | rest => (readMembers fuel rest).map fun (members, r) => (.map (Value.entriesOf members), r)
    | text =>
      match readWord? text with
      | some found => .ok found
      | none => readNumber text

/-- The items of a list, up to its closing bracket. -/
def readItems : Nat → List Char → Except ReadFault (List Value × List Char)
  | 0, text => fail .value text
  | fuel + 1, text => do
    let (item, rest) ← readValue fuel text
    match skipSpace rest with
    | ']' :: rest => .ok ([item], rest)
    | ',' :: rest =>
      let (items, rest) ← readItems fuel (skipSpace rest)
      .ok (item :: items, rest)
    | rest => fail .comma rest

/-- The members of an object, up to its closing brace. -/
def readMembers : Nat → List Char → Except ReadFault (List (Value × Value) × List Char)
  | 0, text => fail .propertyName text
  | fuel + 1, text => do
    match text with
    | '"' :: rest =>
      let (key, rest) ← readChars text.length rest
      match skipSpace rest with
      | ':' :: rest =>
        let (value, rest) ← readValue fuel (skipSpace rest)
        let member := (.ofCodes key, value)
        match skipSpace rest with
        | '\x7d' :: rest => .ok ([member], rest)
        | ',' :: rest =>
          let (members, rest) ← readMembers fuel (skipSpace rest)
          .ok (member :: members, rest)
        | rest => fail .comma rest
      | rest => fail .colon rest
    | text => fail .propertyName text

end

/-- The value of a whole text. A byte order mark at the front is refused. -/
def readAll (text : List Char) : Except ReadFault Value := do
  if text.head? = some '\uFEFF' then fail .byteOrderMark text
  let (value, rest) ← readValue (2 * text.length + 2) (skipSpace text)
  match skipSpace rest with
  | [] => .ok value
  | rest => fail .extraData rest

/-- A fault with its place. -/
inductive Fault
  | malformed (reason : Reason) (line column offset : Nat)
  | tooManyDigits (count : Nat)
  deriving DecidableEq, Repr

/-- The place `offset` characters into the text: lines count from one, columns too. -/
def placeFault (text : List Char) (reason : Reason) (offset : Nat) : Fault :=
  let before := text.take offset
  let column := (before.reverse.takeWhile (· ≠ '\n')).length + 1
  .malformed reason (before.count '\n' + 1) column offset

/-- The value of a whole text, or a fault with its place. -/
def read (text : List Char) : Except Fault Value :=
  match readAll text with
  | .ok value => .ok value
  | .error (.malformed reason remaining) => .error (placeFault text reason (text.length - remaining))
  | .error (.tooManyDigits count) => .error (.tooManyDigits count)

def Reason.text : Reason → String
  | .value => "Expecting value"
  | .extraData => "Extra data"
  | .byteOrderMark => "Unexpected UTF-8 BOM (decode using utf-8-sig)"
  | .propertyName => "Expecting property name enclosed in double quotes"
  | .colon => "Expecting ':' delimiter"
  | .comma => "Expecting ',' delimiter"
  | .unterminated => "Unterminated string starting at"
  | .escape => "Invalid \\escape"
  | .unicodeEscape => "Invalid \\uXXXX escape"
  | .control => "Invalid control character at"

end LintRun.Json
