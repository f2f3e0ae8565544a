import LintRun.Decimal.Layout
import LintRun.Text.Quoted
import LintRun.Value.Basic

/-!
# Value — Display

How messages show a value: texts between quotes, numbers with the digits that read back, lists and mappings
in brackets.

* `display`: the value inside a message that quotes it; a list or mapping inside itself is cut short.
* `isShowable`: whether all integers in a value are short enough to be shown.
* `plainText`: a value as a text; a text or a path stands for itself.
-/

namespace LintRun.Value

/-- Items between brackets. -/
def bracketed (left right : String) (items : List String) : String :=
  left ++ Text.joinWith ", " items ++ right

/-- What is shown of a list or mapping inside itself. -/
def ellipsis : Value → String
  | .list _ => "[...]"
  | .tuple _ => "(...)"
  | .map _ => "\x7b...\x7d"
  | _ => "set(...)"

def boolText (b : Bool) : String := if b then "True" else "False"

/-- A path in a message. -/
def pathText (p : Path) : String := "PosixPath(" ++ Text.quote p.text ++ ")"

mutual

/-- The value as a message quotes it, inside the labelled values of which the ellipses are given. A tuple of one item
keeps a comma, an empty set has no brackets of its own. -/
def displayWithin (outer : List (Nat × String)) : Value → String
  | .null => "None"
  | .bool b => boolText b
  | .int i => toString i
  | .float x => x.text
  | .str s => Text.quote s
  | .codes units => String.ofList (Text.quoteCodes units)
  | .path p => pathText p
  | .date d => d.text
  | .moment t => t.text
  | .bytes bs => Text.quoteBytes bs
  | .list items => bracketed "[" "]" (displayItems outer items)
  | .tuple [item] => "(" ++ displayWithin outer item ++ ",)"
  | .tuple items => bracketed "(" ")" (displayItems outer items)
  | .set [] => "set()"
  | .set items => bracketed "\x7b" "\x7d" (displayItems outer items)
  | .map entries => bracketed "\x7b" "\x7d" (displayEntries outer entries)
  | .labelled label body =>
    match outer.lookup label with
    | some text => text
    | none => displayWithin ((label, ellipsis body) :: outer) body
  | .reference label => (outer.lookup label).getD ""

def displayItems (outer : List (Nat × String)) : List Value → List String
  | [] => []
  | v :: rest => displayWithin outer v :: displayItems outer rest

def displayEntries (outer : List (Nat × String)) : List (Value × Value) → List String
  | [] => []
  | (k, v) :: rest => (displayWithin outer k ++ ": " ++ displayWithin outer v) :: displayEntries outer rest

end

/-- The value as a message quotes it. -/
def display (v : Value) : String := displayWithin [] v

mutual

/-- Whether all integers in a value are short enough to be shown. -/
def isShowable : Value → Bool
  | .int i => i.natAbs < Nat.pow 10 Text.digitLimit
  | .list items | .tuple items | .set items => areShowable items
  | .map entries => entriesAreShowable entries
  | .labelled _ body => isShowable body
  | _ => true

def areShowable : List Value → Bool
  | [] => true
  | v :: rest => isShowable v && areShowable rest

def entriesAreShowable : List (Value × Value) → Bool
  | [] => true
  | (k, v) :: rest => isShowable k && isShowable v && entriesAreShowable rest

end

/-- The value on its own: texts and paths as they are. -/
def plainText : Value → RawText
  | .str s => s
  | .path p => p.text
  | .codes units => .ofCodes units
  | v => v.display

@[simp] theorem plainText_ofText (t : RawText) : (ofText t).plainText = t := by
  cases t with
  | plain text => rfl
  | codes units h => exact RawText.ofCodes_of_none h

end LintRun.Value
