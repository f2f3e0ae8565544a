import Mathlib
import LintRun.Pipeline.Basic

/-!
# Proofs — Checks — More checks for a catalog

What comes of checks that a configuration adds to a catalog.

* `Catalog.identifiers_texts`: texts are identifiers up to the first that is blank.
* `Catalog.extend_texts`: a catalog takes texts over unless one of them is blank, and reports the
  first of these.
* `Catalog.isIdentifier_curated`: no curated check is blank.
* `Catalog.catalogOf_cases`: the checks of a configuration make a catalog unless one of them is
  blank.
-/

namespace LintRun.Catalog

variable {checks required optional : List RawText} {c : Catalog}

/-- The place of the first check that is no identifier. -/
def firstBlank? (checks : List RawText) : Option Nat :=
  checks.findIdx? fun check => !isIdentifier check

theorem firstBlank?_eq_none_iff :
    firstBlank? checks = none ↔ ∀ check ∈ checks, isIdentifier check = true := by
  simp [firstBlank?, List.findIdx?_eq_none_iff]

theorem exists_blank {k : Nat} (h : firstBlank? checks = some k) :
    ∃ check ∈ checks, isIdentifier check = false := by
  by_contra hnone
  have hall : ∀ check ∈ checks, isIdentifier check = true := fun check hcheck => by
    by_contra hblank
    exact hnone ⟨check, hcheck, by simpa using hblank⟩
  rw [firstBlank?_eq_none_iff.2 hall] at h
  cases h

theorem firstBlank?_append {before : List RawText}
    (h : ∀ check ∈ before, isIdentifier check = true) :
    firstBlank? (before ++ checks) = (firstBlank? checks).map fun k => before.length + k := by
  rw [firstBlank?, List.findIdx?_append,
    show List.findIdx? _ before = none from firstBlank?_eq_none_iff.2 h, Option.none_or,
    firstBlank?]
  simp only [Nat.add_comm]

theorem firstBlank?_cons (check : RawText) :
    firstBlank? (check :: checks) =
      if isIdentifier check then (firstBlank? checks).map fun k => 1 + k else some 0 := by
  cases h : isIdentifier check <;> simp [firstBlank?, List.findIdx?_cons, h, Nat.add_comm]

theorem identifier?_ofText (check : RawText) :
    identifier? (.ofText check) = if isIdentifier check then some check else none := by
  rw [identifier?, Value.plainText_ofText, Value.codes?_ofText]
  rfl

/-- **Texts are identifiers up to the first that is blank.** -/
theorem identifiers_texts (group : CheckGroup) (index : Nat) (checks : List RawText) :
    identifiers group index (checks.map .ofText) =
      match firstBlank? checks with
      | none => .ok checks
      | some k => .error (.emptyCheck (index + k) group) := by
  induction checks generalizing index with
  | nil => rfl
  | cons check rest ih =>
    rw [List.map_cons, identifiers, identifier?_ofText, firstBlank?_cons]
    by_cases h : isIdentifier check
    · simp only [h, if_true, ih]
      cases firstBlank? rest with
      | none => rfl
      | some k => simp [Except.map, Nat.add_assoc]
    · simp only [h, if_false, Bool.false_eq_true, Nat.add_zero]

/-- A catalog with more texts is that of all items in order. -/
theorem extend_eq (c : Catalog) (required optional : List RawText) :
    c.extend (Config.texts required) (Config.texts optional) =
      match ofItems ((c.required ++ required).map .ofText)
        ((c.optional ++ optional).map .ofText) with
      | .ok c => .ok c
      | .error p => report (.configuration p) := by
  have hitems (texts : List RawText) : itemsOf (Config.texts texts) = .ok (texts.map .ofText) := rfl
  rw [extend, hitems, hitems, List.map_append, List.map_append]
  rfl

/-- **More checks for a catalog**: it takes them over unless one of them is blank, and else reports
the first of these, required ones first. -/
theorem extend_texts (hc : ∀ check ∈ c.required ++ c.optional, isIdentifier check = true)
    (required optional : List RawText) :
    c.extend (Config.texts required) (Config.texts optional) =
      match firstBlank? required, firstBlank? optional with
      | some k, _ => report (.configuration (.emptyCheck (c.required.length + k) .required))
      | none, some k => report (.configuration (.emptyCheck (c.optional.length + k) .optional))
      | none, none => .ok ⟨c.required ++ required, c.optional ++ optional⟩ := by
  obtain ⟨hrequired, hoptional⟩ := List.forall_mem_append.1 hc
  rw [extend_eq, ofItems, identifiers_texts, identifiers_texts, firstBlank?_append hrequired,
    firstBlank?_append hoptional]
  cases firstBlank? required <;> cases firstBlank? optional <;> simp [Except.bind, bind]

/-- More checks make a catalog or a problem, in which case one of them is blank. -/
theorem extend_cases (hc : ∀ check ∈ c.required ++ c.optional, isIdentifier check = true)
    (required optional : List RawText) :
    ((∀ check ∈ required ++ optional, isIdentifier check = true) ∧
      ∃ extended, c.extend (Config.texts required) (Config.texts optional) = .ok extended) ∨
    ((∃ check ∈ required ++ optional, isIdentifier check = false) ∧
      ∃ index group, c.extend (Config.texts required) (Config.texts optional) =
        report (.configuration (.emptyCheck index group))) := by
  rw [extend_texts hc]
  cases hrequired : firstBlank? required with
  | some k =>
    obtain ⟨check, hcheck, hblank⟩ := exists_blank hrequired
    exact .inr ⟨⟨check, List.mem_append_left _ hcheck, hblank⟩, _, _, rfl⟩
  | none =>
    cases hoptional : firstBlank? optional with
    | some k =>
      obtain ⟨check, hcheck, hblank⟩ := exists_blank hoptional
      exact .inr ⟨⟨check, List.mem_append_right _ hcheck, hblank⟩, _, _, rfl⟩
    | none =>
      exact .inl ⟨List.forall_mem_append.2 ⟨firstBlank?_eq_none_iff.1 hrequired,
        firstBlank?_eq_none_iff.1 hoptional⟩, _, rfl⟩

/-- A text that does not start with a blank is an identifier. -/
theorem isIdentifier_ofList {first : Char} {rest : List Char} (h : Text.isBlank first = false) :
    isIdentifier (String.ofList (first :: rest)) = true := by
  rw [isIdentifier, RawText.shown, String.toList_ofList, List.any_cons, h]
  rfl

/-- No curated check is blank. -/
theorem isIdentifier_curated :
    ∀ check ∈ curated.required ++ curated.optional, isIdentifier check = true := by
  simp only [curated, curatedRequired, curatedOptional, List.forall_mem_append, List.forall_mem_map,
    List.forall_mem_cons, List.not_mem_nil, false_implies, implies_true, and_true]
  and_intros <;> exact isIdentifier_ofList (by decide)

/-- The checks of a configuration make a catalog unless one of them is blank. -/
theorem catalogOf_cases (config : Config) :
    ((∀ check ∈ config.extraRequired ++ config.extraOptional, isIdentifier check = true) ∧
      ∃ catalog, Pipeline.catalogOf config = .ok catalog) ∨
    ((∃ check ∈ config.extraRequired ++ config.extraOptional, isIdentifier check = false) ∧
      ∃ index group, Pipeline.catalogOf config =
        report (.configuration (.emptyCheck index group))) :=
  extend_cases isIdentifier_curated config.extraRequired config.extraOptional

end LintRun.Catalog
