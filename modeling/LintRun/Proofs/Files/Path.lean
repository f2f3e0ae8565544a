import Mathlib
import LintRun.Proofs.Files.Tree

/-!
# Proofs — Files — Paths

Reading and writing paths.

* `Path.IsNormal`: what holds of the parts of every path that was read.
* `Path.ofString_text`: such a path is read back as it was written.
* `Path.text_child`: the text of a path with one more part.
-/

namespace LintRun

namespace Path

variable {p : Path} {parts : List String} {part : String}

/-- What a path can have as a part: neither nothing nor a dot, and no slash in it. -/
structure IsName (part : String) : Prop where
  isPart : isPart part = true
  noSlash : '/' ∉ part.toList

instance (part : String) : Decidable (IsName part) :=
  decidable_of_iff (Path.isPart part = true ∧ '/' ∉ part.toList) ⟨fun ⟨h, h'⟩ => ⟨h, h'⟩,
    fun ⟨h, h'⟩ => ⟨h, h'⟩⟩

/-- A path in normal form. -/
def IsNormal (p : Path) : Prop := ∀ part ∈ p.parts, IsName part

instance (p : Path) : Decidable p.IsNormal :=
  inferInstanceAs (Decidable (∀ part ∈ p.parts, IsName part))

/-- A path that is read from a text is in normal form. -/
theorem isNormal_ofString (text : String) : (ofString text).IsNormal := by
  intro part hpart
  obtain ⟨hpieces, hpart⟩ := List.mem_filter.1 hpart
  obtain ⟨piece, hpiece, rfl⟩ := List.mem_map.1 hpieces
  exact ⟨hpart, by simpa using Text.notMem_of_mem_splitAt hpiece⟩

/-- Names that are joined by slashes come apart again. -/
theorem pieces_joinWith (h : ∀ part ∈ parts, IsName part) (hne : parts ≠ []) :
    pieces (Text.joinWith "/" parts).toList = parts :=
  Text.splitAt_joinWith_iff.2 ⟨hne, fun part hpart => (h part hpart).noSlash⟩

/-- A path with parts does not go on with a slash. -/
theorem joinWith_head (h : ∀ part ∈ parts, IsName part) (rest : List Char) :
    (Text.joinWith "/" parts).toList ≠ '/' :: rest := by
  intro hslash
  cases parts with
  | nil => simp [Text.joinWith] at hslash
  | cons part others =>
    have hpart := h part List.mem_cons_self
    obtain ⟨tail, hjoin⟩ : ∃ tail, (Text.joinWith "/" (part :: others)).toList =
        part.toList ++ tail := by
      cases others with
      | nil => exact ⟨[], by simp [Text.joinWith]⟩
      | cons next others =>
        exact ⟨_, by rw [Text.joinWith, String.toList_append, String.toList_append,
          List.append_assoc]⟩
    cases hlist : part.toList with
    | nil =>
      have hempty : part = "" := String.toList_eq_nil_iff.1 hlist
      simpa [isPart, hempty] using hpart.isPart
    | cons c cs =>
      rw [hjoin, hlist, List.cons_append, List.cons.injEq] at hslash
      exact hpart.noSlash (by rw [hlist, hslash.1]; exact List.mem_cons_self)

/-- Slashes at the front make the root. -/
theorem rootOf_slashes {text : List Char} (h : ∀ rest, text ≠ '/' :: rest) :
    rootOf text = .relative ∧ rootOf ('/' :: text) = .absolute ∧
    rootOf ('/' :: '/' :: text) = .doubled := by
  cases text with
  | nil => exact ⟨rfl, rfl, rfl⟩
  | cons c rest =>
    have hc : c ≠ '/' := fun e => h rest (by rw [e])
    simp [rootOf, hc]

/-- **A path in normal form is read back as it was written.** -/
theorem ofString_text (h : p.IsNormal) : ofString p.text = p := by
  obtain ⟨root, parts⟩ := p
  have hfilter : parts.filter isPart = parts :=
    List.filter_eq_self.2 fun part hpart => (h part hpart).isPart
  by_cases hparts : parts = []
  · subst hparts
    cases root <;> rfl
  · have hpieces := pieces_joinWith h hparts
    have htext : text ⟨root, parts⟩ = root.text ++ Text.joinWith "/" parts := by
      simp [text, hparts]
    have hslash (cs : List Char) : pieces ('/' :: cs) = "" :: pieces cs := by
      simp [pieces, Text.splitAt]
    obtain ⟨hrelative, habsolute, hdoubled⟩ := rootOf_slashes (joinWith_head h)
    rw [htext, ofString, String.toList_append]
    cases root <;> simp_all [Root.text, isPart]

/-- A path with one more part goes on behind its text, which has a slash at its end only if it is a
root. -/
theorem text_child (p : Path) (part : String) :
    (p.child part).text =
      if p = here then part else
        if p.parts = [] then p.text ++ part else p.text ++ "/" ++ part := by
  obtain ⟨root, parts⟩ := p
  by_cases hparts : parts = []
  · subst hparts
    cases root <;> simp [child, text, here, Root.text, Text.joinWith]
  · have hhere : (⟨root, parts⟩ : Path) ≠ here := fun h => hparts (congrArg Path.parts h)
    rw [if_neg hhere, if_neg hparts]
    simp [child, text, hparts, Text.joinWith_concat "/" hparts, String.append_assoc]

theorem IsNormal.child (h : p.IsNormal) (hpart : IsName part) : (p.child part).IsNormal := by
  intro other hother
  rcases List.mem_append.1 hother with hother | hother
  · exact h other hother
  · exact List.mem_singleton.1 hother ▸ hpart

theorem text_ne_empty (h : p.IsNormal) : p.text ≠ "" := by
  intro hempty
  have hp : ofString "" = p := by rw [← hempty, ofString_text h]
  rw [← hp] at hempty
  exact absurd hempty (by decide)

end Path
end LintRun
