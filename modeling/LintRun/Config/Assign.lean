import LintRun.Config.Basic
import LintRun.Value.Order

/-!
# Config — Assignments

Entries of a mapping taken as settings, one after the other, each checked against what its key asks for.

* `Config.assign`: one setting from one value.
* `Config.assignAll`: the settings of a mapping; keys that are no settings are refused together, before any
  value is looked at.
* `Config.override`: the same for entries from a caller, where no value leaves a setting as it is.
-/

namespace LintRun.Config

/-- Refuses a value, if it can be shown. -/
def badValue (key : Key) (expected : Expectation) (got : Value) : Outcome α :=
  if got.isShowable then report (.configuration (.badValue key.text expected got)) else stop (.scalar .tooManyToShow)

/-- The value as a text that is not empty; a path counts as its text. -/
def textOf (key : Key) : Value → Outcome RawText
  | .path p => .ok p.text
  | .str s => if s = "" then badValue key .nonEmptyText (.str s) else .ok s
  | .codes units => .ok (.ofCodes units)
  | v => badValue key .nonEmptyText v

/-- The items as texts, or the first that is none. -/
def textsOf (key : Key) : List Value → Outcome (List RawText)
  | [] => .ok []
  | item :: rest => do
    let text ← textOf key item
    let texts ← textsOf key rest
    .ok (text :: texts)

/-- The value as a list of texts; one text counts as a list of it. -/
def textListOf (key : Key) (v : Value) : Outcome (List RawText) :=
  match v.opened with
  | .list items | .tuple items => textsOf key items
  | .str _ | .codes _ => textsOf key [v]
  | _ => badValue key .textList v

/-- The value as an integer above zero; truth values are no integers here. -/
def countOf (key : Key) : Value → Outcome Nat
  | .int i => if i < 1 then badValue key .positiveInteger (.int i) else .ok i.toNat
  | v => badValue key .positiveInteger v

def boolOf (key : Key) : Value → Outcome Bool
  | .bool b => .ok b
  | v => badValue key .boolean v

/-- The value as a number that is not zero or less; an integer past the range of numbers is a fault. -/
def numberOf (key : Key) : Value → Outcome Binary64
  | .int i =>
    if i ≤ 0 then badValue key .positiveNumber (.int i)
    else match Binary64.ofInt? i with
      | some x => .ok x
      | none => stop (.scalar .tooLarge)
  | .float x => if x.isNonPositive then badValue key .positiveNumber (.float x) else .ok x
  | v => badValue key .positiveNumber v

/-- The settings with one of them given by a value. -/
def assign (c : Config) (key : Key) (v : Value) : Outcome Config :=
  match key with
  | .productsDir => (textOf key v).map fun s => { c with productsDir := .ofString s.shown }
  | .product => (textOf key v).map fun s => { c with product := s }
  | .version =>
    match v with
    | .null => .ok { c with version := none }
    | v => (textOf key v).map fun s => { c with version := some s }
  | .analyzer => (textOf key v).map fun s => { c with analyzer := s }
  | .headerFilter => (textOf key v).map fun s => { c with headerFilter := s }
  | .sourceEndings => (textListOf key v).map fun l => { c with sourceEndings := l.map dotted }
  | .headerEndings => (textListOf key v).map fun l => { c with headerEndings := l.map dotted }
  | .jobs => (countOf key v).map fun n => { c with jobs := n }
  | .timeout =>
    match v with
    | .null => .ok { c with timeout := none }
    | v => (numberOf key v).map fun x => { c with timeout := some x }
  | .failFast => (boolOf key v).map fun b => { c with failFast := b }
  | .extraRequired => (textListOf key v).map fun l => { c with extraRequired := l }
  | .extraOptional => (textListOf key v).map fun l => { c with extraOptional := l }
  | .tags => (textListOf key v).map fun l => { c with tags := l }

/-- The setting that a key names. -/
def keyOf? : Value → Option Key
  | .str s => Key.ofText? s
  | _ => none

/-- The texts of keys that are all texts; `index` is the position of the first key. -/
def keyTexts (index : Nat) : List Value → Except KindFault (List RawText)
  | [] => .ok []
  | v :: rest =>
    if v.codes?.isSome then (keyTexts (index + 1) rest).map (v.plainText :: ·)
    else .error (.notJoinable index v.kindName)

/-- Refuses keys that name no setting: all of them at once, in order. -/
def refuseUnknown (keys : List Value) : Outcome Unit :=
  match keys.filter fun k => (keyOf? k).isNone with
  | [] => .ok ()
  | unknown =>
    match Value.sortKeys unknown >>= keyTexts 0 with
    | .ok names => report (.configuration (.unknownKeys names))
    | .error f => stop (.kind f)

/-- The settings with those of the entries, in order. -/
def assignEntries (c : Config) : List (Value × Value) → Outcome Config
  | [] => .ok c
  | (k, v) :: rest =>
    match keyOf? k with
    | some key => c.assign key v >>= fun c => assignEntries c rest
    | none => assignEntries c rest

/-- The settings with those of a mapping. -/
def assignAll (c : Config) (entries : List (Value × Value)) : Outcome Config := do
  refuseUnknown (entries.map Prod.fst)
  assignEntries c entries

/-- The entries that hold a value. -/
def given (overrides : List (String × Value)) : List (Value × Value) :=
  overrides.filterMap fun
    | (_, .null) => none
    | (k, v) => some (.str k, v)

/-- The settings with those that a caller gives; `none` if the caller gives no value, and nothing changes. -/
def override? (c : Config) (overrides : List (String × Value)) : Outcome (Option Config) :=
  match given overrides with
  | [] => .ok none
  | entries => (c.assignAll entries).map some

/-- The settings with those that a caller gives. -/
def override (c : Config) (overrides : List (String × Value)) : Outcome Config :=
  (c.override? overrides).map fun r => r.getD c

end LintRun.Config
