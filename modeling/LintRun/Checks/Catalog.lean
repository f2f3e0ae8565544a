import LintRun.Failure.Problem

/-!
# Checks — Catalogs

Two ordered collections of check identifiers. Identifiers are kept as given, repeats included; none may be
blank.

* `Catalog.ofItems`: a catalog from items of any kind, or the first item that is no identifier.
* `Catalog.extend`: more checks at the end of each collection.
* `Catalog.composed`: the argument that hands both collections to the analyzer, required checks first.
-/

namespace LintRun

structure Catalog where
  required : List RawText
  optional : List RawText
  deriving DecidableEq, Repr

/-- The items of a collection: the characters of a text, the keys of a mapping. -/
def Value.items? (v : Value) : Except KindFault (List Value) :=
  match v.opened with
  | .list items | .tuple items | .set items => .ok items
  | .str s => .ok (s.toList.map fun c => .str (String.singleton c))
  | .codes units => .ok (units.map fun unit => .ofCodes [unit])
  | .map entries => .ok (entries.map Prod.fst)
  | .bytes bs => .ok (bs.map fun b => .int b.toNat)
  | w => .error (.notIterable w.kindName)

namespace Catalog

/-- A text with a character that is not blank. Half a pair is not blank, nor is the mark in its place. -/
def isIdentifier (check : RawText) : Bool := check.shown.toList.any fun c => !Text.isBlank c

/-- The item as an identifier. -/
def identifier? (item : Value) : Option RawText :=
  if item.codes?.isSome && isIdentifier item.plainText then some item.plainText else none

/-- The items as identifiers, or the position of the first that is none; `index` is the position of the first
item. -/
def identifiers (group : CheckGroup) (index : Nat) : List Value → Except ConfigProblem (List RawText)
  | [] => .ok []
  | item :: rest =>
    match identifier? item with
    | none => .error (.emptyCheck index group)
    | some check => (identifiers group (index + 1) rest).map (check :: ·)

/-- A catalog from two lists of items; the required ones are looked at first. -/
def ofItems (required optional : List Value) : Except ConfigProblem Catalog := do
  let r ← identifiers .required 0 required
  let o ← identifiers .optional 0 optional
  .ok ⟨r, o⟩

/-- The items of a collection, or the fault that it has none. -/
def itemsOf (collection : Value) : Outcome (List Value) :=
  match collection.items? with
  | .ok items => .ok items
  | .error f => stop (.kind f)

/-- A catalog from two collections of any kind. -/
def ofCollections (required optional : Value) : Outcome Catalog := do
  let r ← itemsOf required
  let o ← itemsOf optional
  match ofItems r o with
  | .ok c => .ok c
  | .error p => report (.configuration p)

/-- The catalog with more checks at the end of each collection. -/
def extend (c : Catalog) (required optional : Value) : Outcome Catalog := do
  let r ← itemsOf required
  let o ← itemsOf optional
  match ofItems (c.required.map .ofText ++ r) (c.optional.map .ofText ++ o) with
  | .ok c => .ok c
  | .error p => report (.configuration p)

/-- All identifiers between commas, required ones first. -/
def composed (c : Catalog) : RawText := RawText.joinWith "," (c.required ++ c.optional)

end Catalog
end LintRun
