import LintRun.Text.Blank

/-!
# Text — Numerals

Integers and decimals written by people: with blanks around them, a sign, digits of any script, and single
underscores between digits.

* `integerDigits?` finds the sign and the digits of an integer in a base.
* `normalizeNumeral` puts ASCII digits in the place of the digits of other scripts.
-/

namespace LintRun.Text

/-- The zeros of the runs of ten decimal digits (Unicode 14). -/
def digitZeros : List Nat :=
  [0x30, 0x660, 0x6F0, 0x7C0, 0x966, 0x9E6, 0xA66, 0xAE6, 0xB66, 0xBE6, 0xC66, 0xCE6, 0xD66, 0xDE6, 0xE50,
    0xED0, 0xF20, 0x1040, 0x1090, 0x17E0, 0x1810, 0x1946, 0x19D0, 0x1A80, 0x1A90, 0x1B50, 0x1BB0, 0x1C40,
    0x1C50, 0xA620, 0xA8D0, 0xA900, 0xA9D0, 0xA9F0, 0xAA50, 0xABF0, 0xFF10, 0x104A0, 0x10D30, 0x11066,
    0x110F0, 0x11136, 0x111D0, 0x112F0, 0x11450, 0x114D0, 0x11650, 0x116C0, 0x11730, 0x118E0, 0x11950,
    0x11C50, 0x11D50, 0x11DA0, 0x16A60, 0x16AC0, 0x16B50, 0x1D7CE, 0x1D7D8, 0x1D7E2, 0x1D7EC, 0x1D7F6,
    0x1E140, 0x1E2F0, 0x1E950, 0x1FBF0]

def isAsciiDigit (c : Char) : Bool := '0' ≤ c && c ≤ '9'
def isAsciiLetter (c : Char) : Bool := ('a' ≤ c && c ≤ 'z') || ('A' ≤ c && c ≤ 'Z')

/-- A character that the name of a variable may start with. -/
def isNameStart (c : Char) : Bool := isAsciiLetter c || c = '_'

/-- A character of the name of a variable, and of a word. -/
def isNameChar (c : Char) : Bool := isNameStart c || isAsciiDigit c

/-- The value of a decimal digit of any script. -/
def decimalDigit? (c : Char) : Option Nat :=
  if isAsciiDigit c then some (c.toNat - 48)
  else (digitZeros.find? fun z => z ≤ c.toNat && c.toNat < z + 10).map fun z => c.toNat - z

/-- The value of a digit in a base up to thirty-six. -/
def digitIn? (base : Nat) (c : Char) : Option Nat :=
  let value :=
    if isAsciiDigit c then some (c.toNat - 48)
    else if 'a' ≤ c && c ≤ 'z' then some (c.toNat - 87)
    else if 'A' ≤ c && c ≤ 'Z' then some (c.toNat - 55)
    else none
  value.filter (· < base)

/-- In a text with characters outside ASCII, digits become ASCII digits and blanks become spaces. -/
def normalizeNumeral (text : List Char) : List Char :=
  if text.all (·.toNat < 128) then text
  else text.map fun c =>
    if isBlank c then ' '
    else match decimalDigit? c with
      | some d => Char.ofNat (48 + d)
      | none => c

/-- A blank of ASCII that may stand around a numeral. -/
def isPlainBlank (c : Char) : Bool := c = ' ' || (9 ≤ c.toNat && c.toNat ≤ 13)

/-- The text without plain blanks at its two ends. -/
def trimPlain (text : List Char) : List Char :=
  ((text.dropWhile isPlainBlank).reverse.dropWhile isPlainBlank).reverse

/-- Digits with single underscores between them: the digits alone, or nothing if the form is wrong.
`afterDigit` tells that a digit came just before. -/
def groupedDigits? (isDigit : Char → Bool) (afterDigit : Bool) : List Char → Option (List Char)
  | [] => if afterDigit then some [] else none
  | '_' :: rest => if afterDigit then groupedDigits? isDigit false rest else none
  | c :: rest => if isDigit c then (groupedDigits? isDigit true rest).map (c :: ·) else none

/-- The number that a list of digits in a base stands for. -/
def numberOf (base : Nat) (digits : List Char) : Nat :=
  digits.foldl (fun n c => n * base + (digitIn? base c).getD 0) 0

/-- The natural number that a text is. -/
def natural? (text : String) : Option Nat :=
  if text ≠ "" && text.toList.all isAsciiDigit then some (numberOf 10 text.toList) else none

/-- The longest run of decimal digits that is read as an integer. -/
def digitLimit : Nat := 4300

/-- A sign at the front, and the rest. -/
def takeSign : List Char → Bool × List Char
  | '-' :: rest => (true, rest)
  | '+' :: rest => (false, rest)
  | rest => (false, rest)

/-- The letters that may follow a zero to announce a base. -/
def baseMarks : Nat → List Char
  | 2 => ['b', 'B']
  | 8 => ['o', 'O']
  | 16 => ['x', 'X']
  | _ => []

/-- Without the announcement of the base at the front, if there is one; a single underscore may follow it. -/
def dropBaseMark (base : Nat) : List Char → List Char
  | '0' :: m :: rest =>
    if (baseMarks base).contains m then
      match rest with
      | '_' :: rest => rest
      | _ => rest
    else '0' :: m :: rest
  | text => text

/-- The sign and the digits of an integer in a base. -/
def integerDigits? (base : Nat) (text : List Char) : Option (Bool × List Char) :=
  let (negative, body) := takeSign (trimPlain (normalizeNumeral text))
  (groupedDigits? (fun c => (digitIn? base c).isSome) false (dropBaseMark base body)).map (negative, ·)

end LintRun.Text
