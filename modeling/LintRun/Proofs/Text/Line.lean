import Mathlib
import LintRun.Text.Blank

/-!
# Proofs — Text — Lines and cuts

* `Text.cutAt?_eq_some_iff`: a text that is cut at the first separator.
* `Text.exists_eq_dropFinalNewlines`: a text and its final line feeds.
* `Text.EndsLine`, `Text.AreLines`: what ends a line, and the lines of a text.
* `Text.splitLines_eq_iff`: a text is split into its lines.
* `Text.splitLines_append_newline`: the lines of two texts with a line feed between them.
-/

namespace LintRun.Text

/-- **The first separator cuts a text in two.** -/
theorem cutAt?_eq_some_iff {α : Type} [BEq α] [LawfulBEq α] {separator : α}
    {text before after : List α} :
    cutAt? separator text = some (before, after) ↔ text = before ++ separator :: after ∧
    separator ∉ before := by
  induction text generalizing before with
  | nil => simp [cutAt?]
  | cons c rest ih =>
    rw [cutAt?]
    by_cases hc : c = separator
    · subst hc
      cases before with
      | nil => simp
      | cons d before => simp +contextual
    · cases before with
      | nil => simp [hc]
      | cons d before =>
        simp only [beq_iff_eq, hc, if_false, Option.map_eq_some_iff, Prod.mk.injEq, Prod.exists,
          List.cons.injEq, List.cons_append, List.mem_cons, not_or]
        constructor
        · rintro ⟨_, _, hcut, ⟨rfl, rfl⟩, rfl⟩
          obtain ⟨htext, hnot⟩ := ih.1 hcut
          exact ⟨⟨rfl, htext⟩, fun h => hc h.symm, hnot⟩
        · rintro ⟨⟨rfl, htext⟩, -, hnot⟩
          exact ⟨before, after, ih.2 ⟨htext, hnot⟩, ⟨rfl, rfl⟩, rfl⟩

/-! ### Line feeds at the end -/

/-- A text is what is left of it without its final line feeds, with these behind it. -/
theorem exists_eq_dropFinalNewlines (text : List Char) :
    ∃ n, text = dropFinalNewlines text ++ List.replicate n '\n' := by
  refine ⟨(text.rtakeWhile (· == '\n')).length, ?_⟩
  have hfeeds : text.rtakeWhile (· == '\n') =
      List.replicate (text.rtakeWhile (· == '\n')).length '\n' :=
    List.eq_replicate_of_mem fun c hc => by simpa using List.mem_rtakeWhile_imp hc
  rw [← hfeeds]
  exact (List.rdropWhile_append_rtakeWhile ..).symm

/-- No line feed is left at its end. -/
theorem getLast?_dropFinalNewlines (text : List Char) :
    (dropFinalNewlines text).getLast? ≠ some '\n' := by
  intro h
  have hne : text.rdropWhile (· == '\n') ≠ [] := fun e => by
    rw [show dropFinalNewlines text = [] from e] at h
    cases h
  refine List.rdropWhile_last_not _ _ hne ?_
  have hlast : some ((text.rdropWhile (· == '\n')).getLast hne) = some '\n' := by
    rw [← List.getLast?_eq_some_getLast]
    exact h
  simpa using hlast

/-! ### Lines -/

/-- A text without a character that ends a line. -/
def IsUnbroken (text : List Char) : Prop := ∀ c ∈ text, isLineBreak c = false

theorem isUnbroken_nil : IsUnbroken [] := fun _ hc => absurd hc List.not_mem_nil

/-- What ends a line that has a text behind it: a character that does so, or a carriage return and a
line feed, which belong together. -/
inductive EndsLine : List Char → List Char → Prop
  | alone {c : Char} {rest : List Char} (h : isLineBreak c = true) (hpair : c = '\r' →
      rest.head? ≠ some '\n') :
      EndsLine [c] rest
  | pair {rest : List Char} : EndsLine ['\r', '\n'] rest

/-- **The lines of a text**: each has an end behind it, except for a last one that is not empty. -/
inductive AreLines : List Char → List (List Char) → Prop
  | none : AreLines [] []
  | last {line : List Char} (hne : line ≠ []) (h : IsUnbroken line) : AreLines line [line]
  | ended {line ending rest : List Char} {lines : List (List Char)} (h : IsUnbroken line)
      (hending : EndsLine ending rest) (hrest : AreLines rest lines) :
      AreLines (line ++ ending ++ rest) (line :: lines)

variable {line ending rest text : List Char} {lines : List (List Char)}

theorem ne_of_isLineBreak_eq_false {c : Char} (h : isLineBreak c = false) : c ≠ '\r' := by
  rintro rfl
  cases h

/-- A character that ends no line goes to the current one. -/
theorem splitLinesFrom_cons {c : Char} (h : isLineBreak c = false) (line text : List Char) :
    splitLinesFrom line (c :: text) = splitLinesFrom (c :: line) text := by
  rw [splitLinesFrom, if_neg (by simp [h])]
  exact fun _ hc _ => ne_of_isLineBreak_eq_false h hc

theorem splitLinesFrom_append (h : IsUnbroken text) (line rest : List Char) :
    splitLinesFrom line (text ++ rest) = splitLinesFrom (text.reverse ++ line) rest := by
  induction text generalizing line with
  | nil => rfl
  | cons c text ih =>
    obtain ⟨hc, htext⟩ := List.forall_mem_cons.1 h
    rw [List.cons_append, splitLinesFrom_cons hc, ih htext, List.reverse_cons, List.append_assoc]
    rfl

theorem splitLinesFrom_ended (h : EndsLine ending rest) (line : List Char) :
    splitLinesFrom line (ending ++ rest) = line.reverse :: splitLines rest := by
  cases h with
  | pair => rfl
  | alone h hpair =>
    rw [List.singleton_append, splitLinesFrom, if_pos h]
    · rfl
    · rintro tail rfl rfl
      exact hpair rfl rfl

theorem AreLines.splitLines_eq (h : AreLines text lines) : splitLines text = lines := by
  induction h with
  | none => rfl
  | last hne h => exact splitLines_single _ hne h
  | ended h hending hrest ih =>
    rw [splitLines, List.append_assoc, splitLinesFrom_append h, splitLinesFrom_ended hending, ih]
    simp

/-- The lines of a text whose current line is held in reverse. -/
theorem areLines_splitLinesFrom (h : IsUnbroken line) (text : List Char) :
    AreLines (line.reverse ++ text) (splitLinesFrom line text) := by
  have hline : IsUnbroken line.reverse := fun c hc => h c (List.mem_reverse.1 hc)
  fun_induction splitLinesFrom line text with
  | case1 line hempty =>
    rw [List.isEmpty_iff.1 hempty]
    exact .none
  | case2 line hempty =>
    rw [List.append_nil]
    exact .last (by simpa using hempty) hline
  | case3 line rest ih =>
    have hrest := ih isUnbroken_nil isUnbroken_nil
    have hended := AreLines.ended hline .pair hrest
    rwa [List.append_assoc] at hended
  | case4 line c rest hpair hbreak ih =>
    have hrest := ih isUnbroken_nil isUnbroken_nil
    have hended := AreLines.ended hline (.alone hbreak fun hc hhead => ?_) hrest
    · rwa [List.append_assoc] at hended
    · obtain ⟨tail, htail⟩ := List.head?_eq_some_iff.1 hhead
      exact hpair tail hc htail
  | case5 line c rest hpair hbreak ih =>
    have hmore : IsUnbroken (c :: line) := List.forall_mem_cons.2 ⟨by simpa using hbreak, h⟩
    have hrest := ih hmore fun d hd => hmore d (List.mem_reverse.1 hd)
    rwa [List.reverse_cons, List.append_assoc] at hrest

/-- **A text is split into its lines.** -/
theorem splitLines_eq_iff : splitLines text = lines ↔ AreLines text lines :=
  ⟨fun h => h ▸ areLines_splitLinesFrom isUnbroken_nil text, AreLines.splitLines_eq⟩

/-- **The lines of two texts with a line feed between them**, perhaps with an empty line in the
middle. -/
theorem splitLines_append_newline (front back : List Char) :
    ∃ gap, (gap = [] ∨ gap = [[]]) ∧
      splitLines (front ++ '\n' :: back) = splitLines front ++ gap ++ splitLines back := by
  have hback : AreLines back (splitLines back) := splitLines_eq_iff.1 rfl
  have hfeed : EndsLine ['\n'] back := .alone (by decide) fun h => absurd h (by decide)
  -- the line feed ends the last line of the front, or an empty one if that has an end already
  have hfront : AreLines front (splitLines front) := splitLines_eq_iff.1 rfl
  simp only [splitLines_eq_iff]
  generalize splitLines front = lines at hfront ⊢
  induction hfront with
  | none =>
    have hended := AreLines.ended isUnbroken_nil hfeed hback
    exact ⟨[[]], .inr rfl, hended⟩
  | @last line hne h =>
    refine ⟨[], .inl rfl, ?_⟩
    have hended := AreLines.ended h hfeed hback
    rwa [List.append_assoc] at hended
  | @ended line ending rest lines h hending hrest ih =>
    obtain ⟨gap, hgap, hlines⟩ := ih
    cases hending with
    | pair =>
      refine ⟨gap, hgap, ?_⟩
      have hended := AreLines.ended h .pair hlines
      rwa [← List.append_assoc] at hended
    | @alone c _ hbreak hpair =>
      by_cases hreturn : c = '\r' ∧ rest = []
      -- a carriage return at the end of the front belongs together with the line feed
      · obtain ⟨rfl, rfl⟩ := hreturn
        obtain rfl : [] = lines := splitLines_eq_iff.2 hrest
        have hended := AreLines.ended h .pair hback
        exact ⟨[], .inl rfl, by simpa using hended⟩
      · refine ⟨gap, hgap, ?_⟩
        have hended := AreLines.ended h (.alone hbreak fun hc => ?_) hlines
        · rwa [← List.append_assoc] at hended
        · rw [List.head?_append_of_ne_nil _ fun hrest => hreturn ⟨hc, hrest⟩]
          exact hpair hc

end LintRun.Text
