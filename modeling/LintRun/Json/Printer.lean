import LintRun.Decimal.Layout
import LintRun.Value.Basic

/-!
# Json — Printer

Writing a value as JSON text, on one line or with one item to a line. Characters outside ASCII stand for
themselves.

* `print`: the text of a value in a style.
* `quoted`, `quotedCodes`: a text between double quotes.
-/

namespace LintRun.Json

/-- One character between double quotes. -/
def escaped (c : Char) : List Char :=
  if c = '"' then ['\\', '"']
  else if c = '\\' then ['\\', '\\']
  else if c = '\n' then ['\\', 'n']
  else if c = '\r' then ['\\', 'r']
  else if c = '\t' then ['\\', 't']
  else if c = '\x08' then ['\\', 'b']
  else if c = '\x0c' then ['\\', 'f']
  else if c.toNat < 32 then
    ['\\', 'u', '0', '0', Nat.digitChar (c.toNat / 16), Nat.digitChar (c.toNat % 16)]
  else [c]

def quoted (text : String) : List Char :=
  '"' :: (text.toList.flatMap escaped ++ ['"'])

/-- Code points between double quotes; half a pair is always escaped. -/
def quotedCodes (units : Text.Codes) : List Char :=
  let escapedCode (n : Nat) : List Char :=
    if Text.isSurrogate n then '\\' :: 'u' :: Text.hexText 4 n else escaped (Char.ofNat n)
  '"' :: (units.flatMap escapedCode ++ ['"'])

/-- Whether items stand on lines of their own, and how far each level is indented. -/
inductive Style
  | oneLine
  | indented (width : Nat)
  deriving DecidableEq, Repr

/-- What stands before the first item, or after the last one, at a depth. -/
def Style.lineStart : Style → Nat → List Char
  | .oneLine, _ => []
  | .indented width, depth => '\n' :: List.replicate (width * depth) ' '

/-- What stands between two items. -/
def Style.between (style : Style) (depth : Nat) : List Char :=
  match style with
  | .oneLine => [',', ' ']
  | .indented _ => ',' :: style.lineStart depth

/-- The key of a member; only texts are written as keys. -/
def keyText : Value → List Char
  | .str s => quoted s
  | .codes units => quotedCodes units
  | _ => quoted ""

mutual

/-- The text of a value at a depth. Values that JSON has no form for are written as null. -/
def printAt (style : Style) (depth : Nat) : Value → List Char
  | .null => "null".toList
  | .bool true => "true".toList
  | .bool false => "false".toList
  | .int i => (toString i).toList
  | .float x => x.dataText.toList
  | .str s => quoted s
  | .path p => quoted p.text
  | .list [] | .tuple [] => ['[', ']']
  | .list items | .tuple items =>
    '[' :: (style.lineStart (depth + 1) ++ printItems style (depth + 1) items ++ style.lineStart depth ++ [']'])
  | .map [] => ['\x7b', '\x7d']
  | .map entries =>
    '\x7b' ::
      (style.lineStart (depth + 1) ++ printEntries style (depth + 1) entries ++ style.lineStart depth ++ ['\x7d'])
  | .codes units => quotedCodes units
  | .set _ | .date _ | .moment _ | .bytes _ | .labelled _ _ | .reference _ => "null".toList

def printItems (style : Style) (depth : Nat) : List Value → List Char
  | [] => []
  | [v] => printAt style depth v
  | v :: rest => printAt style depth v ++ style.between depth ++ printItems style depth rest

def printEntries (style : Style) (depth : Nat) : List (Value × Value) → List Char
  | [] => []
  | [(k, v)] => keyText k ++ ':' :: ' ' :: printAt style depth v
  | (k, v) :: rest =>
    keyText k ++ ':' :: ' ' :: printAt style depth v ++ style.between depth ++ printEntries style depth rest

end

/-- The text of a value. -/
def print (style : Style) (v : Value) : String := String.ofList (printAt style 0 v)

end LintRun.Json
