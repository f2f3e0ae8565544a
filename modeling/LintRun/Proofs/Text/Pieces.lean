import Mathlib
import LintRun.Text.Blank
import LintRun.Text.Code

/-!
# Proofs — Text — Pieces between separators

Cutting a text at a separator, and putting texts together with one.

* `Text.splitAt_append_separator`: cutting is local to what stands between two separators.
* `Text.splitAt_append_left`, `Text.splitAt_append_replicate`: what stands in front of the first
  separator, and separators at the end.
* `Text.splitAt_intercalate`, `Text.splitAt_joinWith`: texts that are joined are cut into the pieces
  of each.
* `Text.splitAt_intercalate_iff`, `Text.splitAt_joinWith_iff`: which texts are found again between
  the separators that they were joined with.
* `RawText.units_joinWith`: the code points of texts that are joined.
-/

namespace LintRun

namespace Text

variable {α : Type} [BEq α] {separator : α} {piece text : List α}

theorem splitAt_ne_nil (separator : α) (text : List α) : splitAt separator text ≠ [] := by
  cases text with
  | nil => simp [splitAt]
  | cons c rest =>
    rw [splitAt]
    split
    · simp
    · split <;> simp

theorem splitAt_eq_splitOn (separator : α) (text : List α) :
    splitAt separator text = text.splitOn separator := by
  induction text with
  | nil => rfl
  | cons c text ih =>
    rw [splitAt, List.splitOn, List.splitOnP_cons_eq_if_modifyHead, ← List.splitOn, ← ih]
    obtain ⟨part, parts, hparts⟩ := List.exists_cons_of_ne_nil (splitAt_ne_nil separator text)
    rw [hparts]
    rfl

variable [LawfulBEq α]

/-- A text without separators is one piece. -/
theorem splitAt_of_notMem (h : separator ∉ text) : splitAt separator text = [text] := by
  induction text with
  | nil => rfl
  | cons c rest ih =>
    rw [List.mem_cons, not_or] at h
    obtain ⟨hc, hrest⟩ := h
    rw [splitAt, if_neg (by simpa using fun e => hc e.symm), ih hrest]

/-- A separator ends a piece and begins the next one, whatever stands around it. -/
theorem splitAt_append_separator (front back : List α) :
    splitAt separator (front ++ separator :: back) =
      splitAt separator front ++ splitAt separator back := by
  induction front with
  | nil => simp [splitAt]
  | cons c rest ih =>
    rw [List.cons_append, splitAt, splitAt, ih]
    split
    · rfl
    · obtain ⟨first, others, hsplit⟩ := List.exists_cons_of_ne_nil (splitAt_ne_nil separator rest)
      rw [hsplit]
      rfl

/-- The first separator cuts off what stands before it. -/
theorem splitAt_append (h : separator ∉ piece) (text : List α) :
    splitAt separator (piece ++ separator :: text) = piece :: splitAt separator text := by
  rw [splitAt_append_separator, splitAt_of_notMem h, List.singleton_append]

/-- What stands before the first separator belongs to the first piece. -/
theorem splitAt_append_left (h : separator ∉ piece) (text : List α) :
    splitAt separator (piece ++ text) = (splitAt separator text).modifyHead (piece ++ ·) := by
  induction piece with
  | nil => exact (congrFun List.modifyHead_id _).symm
  | cons c rest ih =>
    rw [List.mem_cons, not_or] at h
    obtain ⟨first, others, hsplit⟩ := List.exists_cons_of_ne_nil (splitAt_ne_nil separator text)
    rw [List.cons_append, splitAt, if_neg (by simpa using Ne.symm h.1), ih h.2, hsplit]
    rfl

/-- Separators at the end are followed by nothing. -/
theorem splitAt_append_replicate (text : List α) (n : Nat) :
    splitAt separator (text ++ List.replicate n separator) =
      splitAt separator text ++ List.replicate n [] := by
  induction n with
  | zero => simp
  | succ n ih =>
    rw [List.replicate_succ', ← List.append_assoc, splitAt_append_separator, ih,
      List.replicate_succ', ← List.append_assoc]
    rfl

/-- No separator is left in a piece. -/
theorem notMem_of_mem_splitAt (h : piece ∈ splitAt separator text) : separator ∉ piece := by
  induction text generalizing piece with
  | nil =>
    obtain rfl : piece = [] := by simpa [splitAt] using h
    simp
  | cons c rest ih =>
    rw [splitAt] at h
    split at h
    · rcases List.mem_cons.1 h with rfl | h
      · simp
      · exact ih h
    · rename_i hc
      obtain ⟨first, others, hsplit⟩ := List.exists_cons_of_ne_nil (splitAt_ne_nil separator rest)
      rw [hsplit] at h ih
      rcases List.mem_cons.1 h with rfl | h
      · have hne : separator ≠ c := fun e => hc (by simp [e])
        simp [hne, ih List.mem_cons_self]
      · exact ih (List.mem_cons_of_mem _ h)

omit [BEq α] [LawfulBEq α] in
theorem mem_of_mem_intercalate {parts : List (List α)} {part between : List α} {c : α}
    (hpart : part ∈ parts) (hc : c ∈ part) : c ∈ between.intercalate parts := by
  induction parts with
  | nil => cases hpart
  | cons first parts ih =>
    cases parts with
    | nil =>
      obtain rfl := List.mem_singleton.1 hpart
      simpa [List.intercalate] using hc
    | cons next parts =>
      rw [List.intercalate, List.intersperse_cons_cons, List.flatten_cons, List.flatten_cons,
        ← List.intercalate]
      rcases List.mem_cons.1 hpart with rfl | hpart
      · exact List.mem_append_left _ hc
      · exact List.mem_append_right _ (List.mem_append_right _ (ih hpart))

/-- What stands in a part of a text stands in the text. -/
theorem mem_of_mem_splitAt {part : List α} {c : α} (hpart : part ∈ splitAt separator text)
    (hc : c ∈ part) :
    c ∈ text := by
  rw [splitAt_eq_splitOn] at hpart
  have hjoined : [separator].intercalate (text.splitOn separator) = text :=
    List.intercalate_splitOn separator
  exact hjoined ▸ mem_of_mem_intercalate hpart hc

/-! ### Texts that are joined -/

section Intercalate

variable {parts : List (List α)}

/-- **Parts that are joined are cut into the pieces of each.** -/
theorem splitAt_intercalate (hne : parts ≠ []) :
    splitAt separator ([separator].intercalate parts) = parts.flatMap (splitAt separator) := by
  induction parts with
  | nil => exact absurd rfl hne
  | cons first parts ih =>
    cases parts with
    | nil => simp
    | cons next parts =>
      rw [List.intercalate_cons_cons, List.append_assoc, List.singleton_append,
        splitAt_append_separator, ih (List.cons_ne_nil _ _)]
      rfl

/-- **Parts are found again between the separators that they were joined with** exactly if there are
some and no separator is in them. -/
theorem splitAt_intercalate_iff :
    splitAt separator ([separator].intercalate parts) = parts ↔
    parts ≠ [] ∧ ∀ part ∈ parts, separator ∉ part := by
  constructor
  · intro h
    refine ⟨?_, fun part hpart => notMem_of_mem_splitAt (h ▸ hpart)⟩
    rintro rfl
    exact splitAt_ne_nil _ _ h
  · rintro ⟨hne, hnone⟩
    rw [splitAt_intercalate hne,
      List.flatMap_congr fun part hpart => splitAt_of_notMem (hnone part hpart)]
    exact List.flatMap_pure_eq_map id parts |>.trans (List.map_id parts)

end Intercalate

section JoinWith

variable {separator : Char} {texts : List String}

theorem toList_joinWith (between : String) (texts : List String) :
    (joinWith between texts).toList = between.toList.intercalate (texts.map String.toList) := by
  induction texts with
  | nil => rfl
  | cons first texts ih =>
    cases texts with
    | nil => simp [joinWith]
    | cons next texts =>
      rw [joinWith, String.toList_append, String.toList_append, ih, List.map_cons, List.map_cons,
        List.map_cons, List.intercalate_cons_cons]

theorem splitAt_joinWith (separator : Char) (hne : texts ≠ []) :
    splitAt separator (joinWith (String.singleton separator) texts).toList =
      texts.flatMap fun text => splitAt separator text.toList := by
  rw [toList_joinWith, String.toList_singleton, splitAt_intercalate (by simpa using hne),
    List.flatMap_map]

/-- One more text stands behind a separator. -/
theorem joinWith_concat (between : String) (hne : texts ≠ []) (text : String) :
    joinWith between (texts ++ [text]) = joinWith between texts ++ between ++ text := by
  induction texts with
  | nil => exact absurd rfl hne
  | cons first texts ih =>
    cases texts with
    | nil => rfl
    | cons next texts =>
      rw [List.cons_append, List.cons_append, joinWith, ← List.cons_append,
        ih (List.cons_ne_nil _ _), joinWith]
      simp only [String.append_assoc]

theorem splitAt_joinWith_iff :
    (splitAt separator (joinWith (String.singleton separator) texts).toList).map
      String.ofList = texts ↔
      texts ≠ [] ∧ ∀ text ∈ texts, separator ∉ text.toList := by
  have hparts : (splitAt separator (joinWith (String.singleton separator) texts).toList).map
    String.ofList = texts ↔
      splitAt separator ([separator].intercalate (texts.map String.toList)) =
        texts.map String.toList := by
    rw [toList_joinWith, String.toList_singleton]
    refine ⟨fun h => ?_, fun h => ?_⟩
    · simpa [Function.comp_def] using congrArg (List.map String.toList) h
    · simp [h, Function.comp_def]
  rw [hparts, splitAt_intercalate_iff, List.forall_mem_map, Ne, List.map_eq_nil_iff]

end JoinWith

end Text

/-- The code points of texts that are joined. -/
theorem RawText.units_joinWith (separator : RawText) (texts : List RawText) :
    (joinWith separator texts).units = separator.units.intercalate (texts.map units) := by
  induction texts with
  | nil => rfl
  | cons first texts ih =>
    cases texts with
    | nil => simp [joinWith]
    | cons next texts =>
      rw [joinWith, units_append, units_append, ih, List.map_cons, List.map_cons, List.map_cons,
        List.intercalate_cons_cons]

end LintRun
