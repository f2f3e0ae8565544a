import LintRun.Text.Printable

/-!
# Text — Quoted text

How a text is shown inside a message: between quotes, with whatever has no visible form escaped.

* The quote is `'`, or `"` for a text that holds a `'` and no `"`.
* `quoteBytes` shows a byte string in the same way.
-/

namespace LintRun.Text

/-- The digits of a number in base sixteen, lower case, padded with zeros to a width. -/
def hexText (width n : Nat) : List Char :=
  let ds := Nat.toDigits 16 n
  List.replicate (width - ds.length) '0' ++ ds

/-- One character between the quotes `mark`. -/
def quoteChar (mark c : Char) : List Char :=
  if c = mark || c = '\\' then ['\\', c]
  else if c = '\t' then ['\\', 't']
  else if c = '\n' then ['\\', 'n']
  else if c = '\r' then ['\\', 'r']
  else if isPrintable c then [c]
  else if c.toNat < 0x100 then '\\' :: 'x' :: hexText 2 c.toNat
  else if c.toNat < 0x10000 then '\\' :: 'u' :: hexText 4 c.toNat
  else '\\' :: 'U' :: hexText 8 c.toNat

/-- The quote that a text is put between. -/
def quoteMark (text : List Char) : Char :=
  if text.contains '\'' && !text.contains '"' then '"' else '\''

/-- The text between quotes. -/
def quoteChars (text : List Char) : List Char :=
  let mark := quoteMark text
  mark :: (text.flatMap (quoteChar mark) ++ [mark])

/-- The text between quotes. -/
def quote (text : String) : String :=
  String.ofList (quoteChars text.toList)

/-- One byte between the quotes `mark`; only printable ASCII is shown as itself. -/
def quoteByte (mark : Char) (b : UInt8) : List Char :=
  if b < 0x7F then quoteChar mark (Char.ofNat b.toNat) else '\\' :: 'x' :: hexText 2 b.toNat

/-- The bytes between quotes, after a `b`. -/
def quoteBytes (bytes : List UInt8) : String :=
  let mark := quoteMark (bytes.map fun b => Char.ofNat b.toNat)
  String.ofList ('b' :: mark :: (bytes.flatMap (quoteByte mark) ++ [mark]))

end LintRun.Text
