import Mathlib
import LintRun.Proofs.Report.Summary
import LintRun.Proofs.Text.Line
import LintRun.Proofs.Text.Pieces

/-!
# Proofs — Report — The text of a report

The text of a report tells its sections apart: it is made of a block for each, and its headers are
found again among its lines.

* `Section.IsBlock`, `Section.isBlock_block`: what a block is made of.
* `linesOf`: the lines of a text. `Section.linesOf_block_append`: a block adds the lines of its
  parts.
* `Section.filter_linesOf_parts`: the lines of a block that begin like a header are its header and
  those that stray.
* `Report.stream_shows_sections`: the blocks of a report and the headers in it.
-/

namespace LintRun

/-- The lines of a text, as line feeds cut them. -/
def linesOf (text : String) : List (List Char) := Text.splitAt '\n' text.toList

theorem linesOf_eq_singleton {text : String} (h : '\n' ∉ text.toList) :
    linesOf text = [text.toList] :=
  Text.splitAt_of_notMem h

namespace Section

variable {s : Section}

/-- What a section is written as: an empty line, its header, its output without the line feeds at
its end unless nothing is left, and its error if there is one; each of them with a line feed behind
it. -/
def IsBlock (s : Section) (block : String) : Prop :=
  ∃ (kept : String) (feeds : Nat),
    s.output.toList = kept.toList ++ List.replicate feeds '\n' ∧ kept.toList.getLast? ≠ some '\n' ∧
    block = "\n" ++ header s.file ++ "\n" ++ (if kept = "" then "" else kept ++ "\n") ++
      match s.error with
      | none => ""
      | some e => "error: " ++ e.message ++ "\n"

/-- **A section is written as its block.** -/
theorem isBlock_block (s : Section) : s.IsBlock s.block := by
  obtain ⟨feeds, hfeeds⟩ := Text.exists_eq_dropFinalNewlines s.output.toList
  have hlast := Text.getLast?_dropFinalNewlines s.output.toList
  have hbody : s.body.toList = Text.dropFinalNewlines s.output.toList := String.toList_ofList
  rw [← hbody] at hfeeds hlast
  refine ⟨s.body, feeds, hfeeds, hlast, ?_⟩
  rw [block, parts]
  by_cases hempty : s.body = "" <;> cases s.error <;>
    simp [hempty, Text.joinWith, String.append_assoc]

/-! ### Headers among lines -/

/-- What all headers begin with. -/
def headerStart : String := separator ++ "Validating "

/-- Whether a line begins like a header. -/
def looksLikeHeader (line : List Char) : Bool := headerStart.toList.isPrefixOf line

theorem looksLikeHeader_header (file : Path) : looksLikeHeader (header file).toList = true := by
  rw [looksLikeHeader, List.isPrefixOf_iff_prefix, header, ← headerStart, String.append_assoc,
    String.toList_append]
  exact List.prefix_append _ _

theorem looksLikeHeader_nil : looksLikeHeader [] = false := by decide

/-- The line of an error does not begin like a header. -/
theorem looksLikeHeader_error (message : List Char) :
    looksLikeHeader ("error: ".toList ++ message) = false := by
  rfl

/-- No line of the output begins like a header, and none of the error behind its first one. -/
def IsUnmistakable (s : Section) : Prop :=
  (∀ line ∈ linesOf s.output, looksLikeHeader line = false) ∧
    ∀ e, s.error = some e → ∀ line ∈ (linesOf e.message).tail, looksLikeHeader line = false

/-- The lines that begin like a header without being one. -/
def strays (s : Section) : List (List Char) :=
  (linesOf s.output).filter looksLikeHeader ++
    match s.error with
    | none => []
    | some e => (linesOf e.message).tail.filter looksLikeHeader

theorem strays_eq_nil_iff : s.strays = [] ↔ s.IsUnmistakable := by
  rw [strays, IsUnmistakable, List.append_eq_nil_iff, List.filter_eq_nil_iff]
  cases s.error <;> simp

/-- **The lines of a block** are those of its parts, in front of whatever is written next. -/
theorem linesOf_block_append (s : Section) (text : String) :
    linesOf (s.block ++ text) = s.parts.flatMap linesOf ++ linesOf text := by
  have hparts : s.parts ≠ [] := List.cons_ne_nil _ _
  have hblock : (s.block ++ text).toList = (Text.joinWith "\n" s.parts).toList ++
      '\n' :: text.toList := by
    simp [block]
  rw [linesOf, hblock, Text.splitAt_append_separator, show "\n" = String.singleton '\n' from rfl,
    Text.splitAt_joinWith '\n' hparts]
  rfl

/-- What is left of the output holds all its lines but empty ones. -/
theorem filter_linesOf_body (s : Section) :
    (linesOf s.body).filter looksLikeHeader = (linesOf s.output).filter looksLikeHeader := by
  obtain ⟨feeds, hfeeds⟩ := Text.exists_eq_dropFinalNewlines s.output.toList
  have hbody : s.body.toList = Text.dropFinalNewlines s.output.toList := String.toList_ofList
  have hempty : (List.replicate feeds ([] : List Char)).filter looksLikeHeader = [] :=
    List.filter_eq_nil_iff.2 fun line hline => by
      rw [List.eq_of_mem_replicate hline, looksLikeHeader_nil]
      decide
  rw [linesOf, linesOf, hfeeds, Text.splitAt_append_replicate, List.filter_append, hempty,
    List.append_nil, hbody]

/-- An error has its message's lines, with something in front of the first. -/
theorem filter_linesOf_error (message : String) :
    (linesOf ("error: " ++ message)).filter looksLikeHeader =
      (linesOf message).tail.filter looksLikeHeader := by
  obtain ⟨first, others, hlines⟩ :=
    List.exists_cons_of_ne_nil (Text.splitAt_ne_nil '\n' message.toList)
  have herror : linesOf ("error: " ++ message) = ("error: ".toList ++ first) :: others := by
    rw [linesOf, String.toList_append, Text.splitAt_append_left (by decide), hlines]
    rfl
  rw [herror, linesOf, hlines, List.filter_cons_of_neg (by rw [looksLikeHeader_error]; decide),
    List.tail_cons]

/-- **The lines of a block that begin like a header** are its header, if this is one line, and those
that stray. -/
theorem filter_linesOf_parts (hfile : '\n' ∉ s.file.text.toList) :
    (s.parts.flatMap linesOf).filter looksLikeHeader = (header s.file).toList :: s.strays := by
  have hheader : '\n' ∉ (header s.file).toList := by
    simp only [header, String.toList_append, List.mem_append, hfile, or_false]
    decide
  have hempty : (linesOf "").filter looksLikeHeader = [] := by decide
  have houtput : ((if s.body = "" then [] else [s.body]).flatMap linesOf).filter looksLikeHeader =
      (linesOf s.output).filter looksLikeHeader := by
    rw [← filter_linesOf_body]
    by_cases hbody : s.body = ""
    · rw [if_pos hbody, hbody, hempty]
      rfl
    · rw [if_neg hbody, List.flatMap_singleton]
  rw [parts, List.flatMap_append, List.flatMap_append, List.filter_append, List.filter_append,
    houtput, List.flatMap_cons, List.filter_append, hempty, List.flatMap_singleton,
    linesOf_eq_singleton hheader, List.nil_append,
    List.filter_cons_of_pos (looksLikeHeader_header _), List.filter_nil, strays, List.append_assoc,
    List.singleton_append]
  cases s.error with
  | none => rfl
  | some e => rw [List.flatMap_singleton, filter_linesOf_error]

end Section

namespace Report

open Section

variable {α β : Type} {item : α → β} {further : α → List β} {xs : List α}

theorem length_le_length_flatMap_cons (item : α → β) (further : α → List β) (xs : List α) :
    xs.length ≤ (xs.flatMap fun x => item x :: further x).length := by
  induction xs with
  | nil => exact Nat.le_refl _
  | cons x rest ih =>
    simp only [List.flatMap_cons, List.length_append, List.length_cons]
    omega

/-- Items, each with further ones behind it, are the items alone exactly if there are no further
ones. -/
theorem flatMap_cons_eq_map_iff :
    (xs.flatMap fun x => item x :: further x) = xs.map item ↔ ∀ x ∈ xs, further x = [] := by
  induction xs with
  | nil => simp
  | cons x rest ih =>
    rw [List.flatMap_cons, List.map_cons, List.cons_append, List.cons.injEq, List.forall_mem_cons,
      ← ih]
    refine ⟨fun ⟨_, h⟩ => ?_, fun ⟨hx, hrest⟩ => ⟨rfl, by rw [hx, hrest, List.nil_append]⟩⟩
    -- the items of the rest take up all the places, so that nothing further is in front of them
    have hlength := congrArg List.length h
    rw [List.length_append, List.length_map] at hlength
    have hrest := length_le_length_flatMap_cons item further rest
    have hx : further x = [] := List.eq_nil_of_length_eq_zero (by omega)
    exact ⟨hx, by rwa [hx, List.nil_append] at h⟩

/-- The lines that begin like a header in what is written for sections, each with its strays behind
its header. -/
theorem filter_linesOf_join {sections : List Section}
    (hfiles : ∀ s ∈ sections, '\n' ∉ s.file.text.toList) :
    (linesOf (String.join (sections.map block))).filter looksLikeHeader =
      sections.flatMap fun s => (header s.file).toList :: s.strays := by
  induction sections with
  | nil => decide
  | cons s rest ih =>
    obtain ⟨hfile, hrest⟩ := List.forall_mem_cons.1 hfiles
    rw [List.map_cons, String.join_cons, linesOf_block_append, List.filter_append,
      filter_linesOf_parts hfile, ih hrest, List.flatMap_cons]

/-- **The text of a report shows its sections.** It is one block for each section in order. If no
file has a line feed in its name, the lines that begin like a header are the headers of the sections
in order exactly if no other line of an output or an error begins like one; and then there are as
many of them as files that the summary counts. -/
theorem stream_shows_sections (run started : String) (sections : List Section) :
    let r := sections.foldl write { run := run, started := started }
    (∃ blocks, List.Forall₂ IsBlock sections blocks ∧ r.text = String.join blocks) ∧
    ((∀ s ∈ sections, '\n' ∉ s.file.text.toList) →
      ((linesOf r.text).filter looksLikeHeader = sections.map (fun s => (header s.file).toList) ↔
        ∀ s ∈ sections, s.IsUnmistakable) ∧
      ((∀ s ∈ sections, s.IsUnmistakable) → ∀ finished toolchain exitCode,
        field? (r.summary finished toolchain exitCode) "files_analyzed" =
          some (.int ((linesOf r.text).filter looksLikeHeader).length))) := by
  intro r
  have htext : r.text = String.join (sections.map block) := by
    rw [text_foldl_write]
    exact String.empty_append
  have hblocks : List.Forall₂ IsBlock sections (sections.map block) :=
    List.forall₂_map_right_iff.2 (List.forall₂_same.2 fun s _ => isBlock_block s)
  refine ⟨⟨_, hblocks, htext⟩, fun hfiles => ?_⟩
  have hheaders : (linesOf r.text).filter looksLikeHeader = sections.map
    (fun s => (header s.file).toList) ↔
      ∀ s ∈ sections, s.IsUnmistakable := by
    rw [htext, filter_linesOf_join hfiles, flatMap_cons_eq_map_iff]
    simp only [strays_eq_nil_iff]
  refine ⟨hheaders, fun hlines finished toolchain exitCode => ?_⟩
  have hcount : r.entries.length = sections.length := by
    rw [entries_foldl_write]
    exact List.length_map _
  rw [hheaders.2 hlines, List.length_map, ← hcount]
  rfl

/-- A file about which something is said, with two empty lines behind it. -/
def warned : Section :=
  { file := ⟨.relative, ["b.cc"]⟩, output := "b.cc:1: warning\n\n\n", status := some 0 }

/-- The headers of a file with a warning and of one whose analysis fails, each found in the text of
their report. -/
theorem stream_shows_warned_and_failed :
    let r := [warned, quotedFailure].foldl write { run := "run", started := "start" }
    (linesOf r.text).filter looksLikeHeader =
      ["=========================Validating b.cc=========================".toList,
        "=========================Validating a.cc=========================".toList] ∧
    field? (r.summary "end" none none) "files_analyzed" = some (.int 2) := by
  intro r
  have hfiles : ∀ s ∈ [warned, quotedFailure], '\n' ∉ s.file.text.toList := by decide +kernel
  have hlines : ∀ s ∈ [warned, quotedFailure], s.IsUnmistakable := by
    rw [List.forall_mem_cons, List.forall_mem_singleton]
    refine ⟨⟨by decide +kernel, ?_⟩, ⟨by decide +kernel, ?_⟩⟩
    · rintro _ ⟨⟩
    · rintro _ ⟨⟩
      decide +kernel
  have hwritten : [warned, quotedFailure].map (fun s => (header s.file).toList) =
      ["=========================Validating b.cc=========================".toList,
        "=========================Validating a.cc=========================".toList] := rfl
  obtain ⟨hheaders, hcount⟩ :=
    (stream_shows_sections "run" "start" [warned, quotedFailure]).2 hfiles
  have hlists := hheaders.2 hlines
  refine ⟨hlists.trans hwritten, ?_⟩
  rw [hcount hlines, hlists, hwritten]
  rfl

end Report
end LintRun
