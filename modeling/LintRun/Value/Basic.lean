import LintRun.Decimal.Numeral
import LintRun.Files.Path
import LintRun.Text.Code
import LintRun.Value.Calendar

/-!
# Value — Dynamic values

What a configuration file holds and what a caller may hand over in its place: a tree of scalars, lists and
mappings. A mapping keeps the order in which its keys were first given. A list or mapping that holds itself has a
label, and references to it stand where it occurs inside.

* `opened`: such a value with one more level written out.
* `insertEntry`: a key that is there keeps its place and takes the new value.
* `sameKey`: equality of keys, under which a number and a truth value may agree.
-/

namespace LintRun

inductive Value
  | null
  | bool (b : Bool)
  | int (i : Int)
  | float (x : Binary64)
  | str (s : String)
  /-- A text with code points that are no characters. -/
  | codes (units : Text.Codes)
  | path (p : Path)
  | date (d : Date)
  | moment (t : Moment)
  | bytes (bs : List UInt8)
  | list (items : List Value)
  | tuple (items : List Value)
  | set (items : List Value)
  | map (entries : List (Value × Value))
  | labelled (label : Nat) (body : Value)
  | reference (label : Nat)
  deriving Repr

namespace Value

/-- The name of a value's kind in messages. -/
def kindName : Value → String
  | .null => "NoneType"
  | .bool _ => "bool"
  | .int _ => "int"
  | .float _ => "float"
  | .str _ | .codes _ => "str"
  | .path _ => "PosixPath"
  | .date _ => "datetime.date"
  | .moment _ => "datetime.datetime"
  | .bytes _ => "bytes"
  | .list _ => "list"
  | .tuple _ => "tuple"
  | .set _ => "set"
  | .map _ => "dict"
  | .labelled _ body => kindName body
  | .reference _ => ""

/-- The value of a text. -/
def ofText : RawText → Value
  | .plain text => .str text
  | .codes units _ => .codes units

/-- The value of the text with these code points. -/
def ofCodes (units : Text.Codes) : Value := ofText (.ofCodes units)

/-- The code points of a text. -/
def codes? : Value → Option Text.Codes
  | .str s => some (Text.codesOf s.toList)
  | .codes units => some units
  | _ => none

@[simp] theorem codes?_ofText (t : RawText) : (ofText t).codes? = some t.units := by
  cases t <;> rfl

theorem ofText_injective {s t : RawText} (h : ofText s = ofText t) : s = t :=
  RawText.units_injective (Option.some.inj (by rw [← codes?_ofText, ← codes?_ofText, h]))

/-! ### Values that hold themselves -/

mutual

/-- A value with `whole` in the place of the references to a label. -/
def substitute (label : Nat) (whole : Value) : Value → Value
  | .reference l => if l = label then whole else .reference l
  | .labelled l body => if l = label then .labelled l body else .labelled l (substitute label whole body)
  | .list items => .list (substituteItems label whole items)
  | .tuple items => .tuple (substituteItems label whole items)
  | .set items => .set (substituteItems label whole items)
  | .map entries => .map (substituteEntries label whole entries)
  | v => v

def substituteItems (label : Nat) (whole : Value) : List Value → List Value
  | [] => []
  | v :: rest => substitute label whole v :: substituteItems label whole rest

def substituteEntries (label : Nat) (whole : Value) : List (Value × Value) → List (Value × Value)
  | [] => []
  | (k, v) :: rest => (substitute label whole k, substitute label whole v) :: substituteEntries label whole rest

end

/-- A value that is no label: one that holds itself with itself written out where it occurs inside. -/
def opened : Value → Value
  | .labelled label body => substitute label (.labelled label body) body
  | v => v

/-! ### Keys -/

/-- The exact value of a number, times `2 ^ 1074`; truth values count as zero and one. -/
def scaledNumber? : Value → Option Int
  | .bool b => some (if b then Int.pow 2 1074 else 0)
  | .int i => some (i * Int.pow 2 1074)
  | .float x =>
    match x.view with
    | .finite _ _ _ => some x.scaled
    | _ => none
  | _ => none

/-- Equality of scalar keys: numbers by their value, moments by the instant, all else by kind and content. What is no
number equals only itself, bit by bit. -/
def sameScalar (a b : Value) : Bool :=
  match a.scaledNumber?, b.scaledNumber? with
  | some m, some n => m = n
  | _, _ =>
    match a, b with
    | .null, .null => true
    | .float x, .float y => x = y
    | .str s, .str t => s = t
    | .codes s, .codes t => s = t
    | .path p, .path q => p = q
    | .date d, .date e => d = e
    | .moment t, .moment u => t.isSame u
    | .bytes s, .bytes t => s = t
    | _, _ => false

mutual

/-- Equality of keys; tuples by their items. -/
def sameKey : Value → Value → Bool
  | .tuple xs, .tuple ys => sameKeys xs ys
  | a, b => sameScalar a b

def sameKeys : List Value → List Value → Bool
  | [], [] => true
  | x :: xs, y :: ys => sameKey x y && sameKeys xs ys
  | _, _ => false

end

/-- Whether a value may be a key. -/
def isHashable : Value → Bool
  | .list _ | .set _ | .map _ | .labelled _ _ | .reference _ => false
  | _ => true

/-- The entries with one more: a key that is there keeps its place and takes the new value. -/
def insertEntry (key : Value) (value : α) : List (Value × α) → List (Value × α)
  | [] => [(key, value)]
  | (k, v) :: rest => if sameKey k key then (k, value) :: rest else (k, v) :: insertEntry key value rest

/-- The entries of a mapping from pairs in the order given; later pairs win. -/
def entriesOf (pairs : List (Value × α)) : List (Value × α) :=
  pairs.foldl (fun entries (k, v) => insertEntry k v entries) []

/-- The value of a text key. -/
def lookup? (key : String) : List (Value × Value) → Option Value
  | [] => none
  | (.str k, v) :: rest => if k = key then some v else lookup? key rest
  | _ :: rest => lookup? key rest

end Value
end LintRun
