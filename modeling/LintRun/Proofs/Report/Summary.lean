import Mathlib
import LintRun.Proofs.Json.RoundTrip
import LintRun.Proofs.Text.Utf8
import LintRun.Config.Source
import LintRun.Report.Summary

/-!
# Proofs — Report — Summaries that are read back

* `Report.isShowable_summary_iff`: the summaries that can be written.
* `Report.isData_summary`: JSON has a form for them.
* `Report.text_foldl_write`, `Report.failures_foldl_write`: the text and the failures of a report of
  sections.
* `Report.persisted_summary_reads_back`: the summaries of sections that are written read back.
-/

namespace LintRun

open Value Json

/-- A number, and the one that stands for what is none in the place of all others that are none. -/
def Binary64.settled (x : Binary64) : Binary64 :=
  match x.view with
  | .nan => nan
  | _ => x

theorem Binary64.settled_of_view_nan {x : Binary64} (h : x.settled.view = .nan) :
    x.settled = nan := by
  rw [settled] at h ⊢
  split
  · rfl
  · next hview =>
    split at h
    · next h' => exact absurd h' hview
    · exact absurd h hview

/-- A number is printed as the one that it is read back as. -/
theorem Binary64.dataText_settled (x : Binary64) : x.settled.dataText = x.dataText := by
  rw [settled]
  split
  · next h =>
    rw [dataText, dataText, Layout.write, Layout.write, h]
    rfl
  · rfl

/-- An entry whose duration is settled. -/
def Entry.settled (e : Entry) : Entry := { e with duration := e.duration.settled }

namespace Report

/-- A report whose durations are settled. -/
def settled (r : Report) : Report := { r with entries := r.entries.map Entry.settled }

variable {r : Report} {e : Entry} {entries : List Entry} {toolchain : Option Toolchain}
  {exitCode : Option Int}
  {run started finished : String}

/-- A number that may be there has few enough digits. -/
def Fits (number : Option Int) : Prop := ∀ i, number = some i → i.natAbs < 10 ^ Text.digitLimit

theorem Fits.of_natAbs_le {i : Int} (h : i.natAbs ≤ Text.digitLimit) : Fits (some i) := by
  rintro _ ⟨⟩
  exact h.trans_lt (Nat.lt_pow_self (by decide))

/-- A report is settled if all its durations are numbers. -/
theorem settled_eq_self (h : ∀ e ∈ r.entries, e.duration.view ≠ .nan) : r.settled = r := by
  have hentries : r.entries.map Entry.settled = r.entries := by
    refine (List.map_congr_left fun e he => ?_).trans (List.map_id _)
    rw [Entry.settled, Binary64.settled]
    split
    · next hview => exact absurd hview (h e he)
    · rfl
  rw [settled, hentries]

/-! ### Which summaries can be written -/

theorem isShowable_optionalText (s : Option String) : (optionalText s).isShowable = true := by
  cases s <;> rfl

theorem isShowable_optionalInt_iff (number : Option Int) :
    (optionalInt number).isShowable = true ↔ Fits number := by
  cases number with
  | none => exact ⟨fun _ _ h => (by cases h), fun _ => rfl⟩
  | some i => simp [optionalInt, isShowable, Fits]

theorem areShowable_iff {items : List Value} :
    areShowable items = true ↔ ∀ v ∈ items, v.isShowable = true := by
  induction items with
  | nil => simp [areShowable]
  | cons v rest ih => simp [areShowable, ih]

/-- An entry can be shown when its exit status has few enough digits. -/
theorem isShowable_entryValue_iff (e : Entry) :
    (entryValue e).isShowable = true ↔ Fits e.status := by
  simp [entryValue, record, isShowable, entriesAreShowable, isShowable_optionalInt_iff,
    isShowable_optionalText]

theorem isShowable_toolchainValue (toolchain : Option Toolchain) :
    ((toolchain.map toolchainValue).getD .null).isShowable = true := by
  cases toolchain with
  | none => rfl
  | some t => simp [toolchainValue, record, isShowable, entriesAreShowable, isShowable_optionalText]

/-- There are no more failures than entries. -/
theorem failures_le (r : Report) : r.failures ≤ r.entries.length := List.length_filter_le _ _

/-- **The summaries that can be written**: all codes, and the count of sections, have few enough
digits. -/
theorem isShowable_summary_iff (r : Report) (finished : String) (toolchain : Option Toolchain)
    (exitCode : Option Int) :
    (r.summary finished toolchain exitCode).isShowable = true ↔
      r.entries.length < 10 ^ Text.digitLimit ∧
      (∀ e ∈ r.entries, Fits e.status) ∧ Fits exitCode := by
  have hfailures := r.failures_le
  generalize hlimit : 10 ^ Text.digitLimit = limit
  simp only [summary, record, List.map_cons, List.map_nil, isShowable, entriesAreShowable,
    isShowable_optionalInt_iff, isShowable_toolchainValue, areShowable_iff, List.forall_mem_map,
    isShowable_entryValue_iff, Bool.and_eq_true, decide_eq_true_eq, true_and, and_true,
    Int.natAbs_natCast, Nat.pow_eq, hlimit]
  constructor
  · rintro ⟨hexit, hcount, -, hcodes⟩
    exact ⟨hcount, hcodes, hexit⟩
  · rintro ⟨hcount, hcodes, hexit⟩
    exact ⟨hexit, hcount, hfailures.trans_lt hcount, hcodes⟩

/-! ### Reading a summary -/

/-- Values of which the same text is printed. -/
def PrintsAlike (v w : Value) : Prop := ∀ style depth, printAt style depth v = printAt style depth w

/-- Items that print alike one by one print alike together. -/
theorem printItems_congr {items items' : List Value} (h : List.Forall₂ PrintsAlike items items')
    (style : Style) (depth : Nat) :
    printItems style depth items = printItems style depth items' := by
  induction h with
  | nil => rfl
  | cons hv hrest ih =>
    cases hrest with
    | nil => exact hv style depth
    | cons hw hrest => rw [printItems_cons_cons, printItems_cons_cons, hv, ih]

theorem PrintsAlike.list {items items' : List Value} (h : List.Forall₂ PrintsAlike items items') :
    PrintsAlike (.list items) (.list items') := by
  intro style depth
  have hitems := printItems_congr h style (depth + 1)
  cases h with
  | nil => rfl
  | cons hv hrest => rw [printAt_list_cons, printAt_list_cons, hitems]

/-- Fields with the same names, of whose values the same texts are printed. -/
def FieldsAlike (fields fields' : List (String × Value)) : Prop :=
  List.Forall₂ (fun f g => f.1 = g.1 ∧ PrintsAlike f.2 g.2) fields fields'

/-- Entries that print alike one by one print alike together. -/
theorem printEntries_congr {fields fields' : List (String × Value)} (h : FieldsAlike fields fields')
    (style : Style) (depth : Nat) :
    printEntries style depth (entriesWith fields) =
      printEntries style depth (entriesWith fields') := by
  induction h with
  | nil => rfl
  | cons hf hrest ih =>
    obtain ⟨hkey, hvalue⟩ := hf
    cases hrest with
    | nil => rw [printEntries_singleton, printEntries_singleton, hkey, hvalue]
    | cons hg hrest => rw [printEntries_cons_cons, printEntries_cons_cons, hkey, hvalue, ih]

theorem PrintsAlike.record {fields fields' : List (String × Value)}
    (h : FieldsAlike fields fields') :
    PrintsAlike (record fields) (record fields') := by
  intro style depth
  have hentries := printEntries_congr h style (depth + 1)
  cases h with
  | nil => rfl
  | cons hf hrest =>
    show printAt style depth (.map (entriesWith (_ :: _))) =
      printAt style depth (.map (entriesWith (_ :: _)))
    rw [printAt_map_cons, printAt_map_cons, hentries]

/-- Numbers that are none are printed alike. -/
theorem printsAlike_settled (e : Entry) : PrintsAlike (entryValue e.settled) (entryValue e) := by
  have hduration : PrintsAlike (.float e.settled.duration) (.float e.duration) :=
    fun style depth => by
    rw [printAt_float, printAt_float, Entry.settled, Binary64.dataText_settled]
  exact .record (.cons ⟨rfl, fun _ _ => rfl⟩ (.cons ⟨rfl, fun _ _ => rfl⟩ (.cons ⟨rfl, hduration⟩
    (.cons ⟨rfl, fun _ _ => rfl⟩ .nil))))

/-- Settling a report counts as many failures. -/
theorem failures_settled (r : Report) : r.settled.failures = r.failures := by
  have hfailure : isFailure ∘ Entry.settled = isFailure := rfl
  rw [failures, failures, settled, List.filter_map, List.length_map, hfailure]

/-- The text of a summary does not tell numbers that are none from each other. -/
theorem summaryText_settled (r : Report) (finished : String) (toolchain : Option Toolchain)
    (exitCode : Option Int) :
    summaryText (r.settled.summary finished toolchain exitCode) =
      summaryText (r.summary finished toolchain exitCode) := by
  have hsections : PrintsAlike (.list (r.settled.entries.map entryValue))
      (.list (r.entries.map entryValue)) := by
    refine .list ?_
    rw [settled, List.map_map, List.forall₂_map_left_iff, List.forall₂_map_right_iff,
      List.forall₂_same]
    exact fun e _ => printsAlike_settled e
  have hcount : r.settled.entries.length = r.entries.length := List.length_map _
  have halike :
      PrintsAlike (r.settled.summary finished toolchain exitCode)
        (r.summary finished toolchain exitCode) := by
    rw [summary, summary, failures_settled, hcount]
    have hsame (v : Value) : PrintsAlike v v := fun _ _ => rfl
    exact .record (.cons ⟨rfl, hsame _⟩ (.cons ⟨rfl, hsame _⟩ (.cons ⟨rfl, hsame _⟩
      (.cons ⟨rfl, hsame _⟩ (.cons ⟨rfl, hsame _⟩ (.cons ⟨rfl, hsame _⟩
        (.cons ⟨rfl, hsame _⟩ (.cons ⟨rfl, hsections⟩ .nil))))))))
  rw [summaryText, summaryText, print, print, halike]

theorem isData_record {fields : List (String × Value)} (hkeys : (fields.map Prod.fst).Nodup)
    (h : ∀ f ∈ fields, IsData f.2) : IsData (record fields) := .map hkeys h

theorem isData_optionalText (s : Option String) : IsData (optionalText s) := by
  cases s with
  | none => exact .null
  | some s => exact .str s

theorem isData_optionalInt {number : Option Int} (h : Fits number) :
    IsData (optionalInt number) := by
  cases number with
  | none => exact .null
  | some i => exact .int (h i rfl)

theorem isData_entryValue (h : Fits e.status) : IsData (entryValue e.settled) := by
  refine isData_record (show ["file", "returncode", "duration_seconds", "error"].Nodup by decide) ?_
  simp only [List.forall_mem_cons, List.not_mem_nil, false_implies, implies_true, and_true]
  exact ⟨.str _, isData_optionalInt h, .float Binary64.settled_of_view_nan, isData_optionalText _⟩

theorem isData_toolchainValue (toolchain : Option Toolchain) :
    IsData ((toolchain.map toolchainValue).getD .null) := by
  cases toolchain with
  | none => exact .null
  | some t =>
    refine isData_record (show ["products_dir", "version", "status"].Nodup by decide) ?_
    simp only [List.forall_mem_cons, List.not_mem_nil, false_implies, implies_true, and_true]
    exact ⟨.str _, isData_optionalText _, .str _⟩

/-- **JSON has a form for a summary** that can be written, once its durations are settled. -/
theorem isData_summary (h : (r.summary finished toolchain exitCode).isShowable = true) :
    IsData (r.settled.summary finished toolchain exitCode) := by
  obtain ⟨hcount, hcodes, hexit⟩ := (isShowable_summary_iff r finished toolchain exitCode).1 h
  have hfailures := r.failures_le
  have hlength : r.settled.entries.length = r.entries.length := List.length_map _
  refine isData_record
    (show ["run_id", "started", "finished", "exit_code", "toolchain", "files_analyzed",
    "invocation_failures", "sections"].Nodup by decide) ?_
  simp only [List.forall_mem_cons, List.not_mem_nil, false_implies, implies_true, and_true]
  refine ⟨.str _, .str _, .str _, isData_optionalInt hexit, isData_toolchainValue toolchain,
    .int ?_, .int ?_, .list ?_⟩
  · rw [hlength, Int.natAbs_natCast]
    exact hcount
  · rw [failures_settled, Int.natAbs_natCast]
    exact Nat.lt_of_le_of_lt hfailures hcount
  · rw [settled, List.map_map, List.forall_mem_map]
    exact fun e he => isData_entryValue (hcodes e he)

/-- A file with the text of a summary holds, for the reader of configurations, the summary. -/
theorem read_summaryText (h : (r.summary finished toolchain exitCode).isShowable = true)
    {source : Source} {file : Path}
    (hfile : source.tree.read file =
      .ok (summaryText (r.summary finished toolchain exitCode)).toUTF8.toList) :
    ∃ text, source.textOf file = .ok text ∧
      Document.read .json text = .ok (r.settled.summary finished toolchain exitCode) := by
  refine ⟨(summaryText (r.summary finished toolchain exitCode)).toList, ?_, ?_⟩
  · rw [Source.textOf, hfile]
    simp only [Utf8.decode_toUTF8]
    rw [← summaryText_settled, summaryText, normalizeNewlines_print (isData_summary h)]
  · rw [← summaryText_settled, summaryText, Document.read, read_print (isData_summary h)]

/-! ### Summaries of sections -/

/-- Sections that are written one after the other leave their entries in that order. -/
theorem entries_foldl_write (sections : List Section) (r : Report) :
    (sections.foldl write r).entries = r.entries ++ sections.map Section.entry := by
  induction sections generalizing r with
  | nil => simp
  | cons s rest ih => simp [ih, write]

/-- Sections that are written one after the other leave their blocks in that order. -/
theorem text_foldl_write (sections : List Section) (r : Report) :
    (sections.foldl write r).text = r.text ++ String.join (sections.map Section.block) := by
  induction sections generalizing r with
  | nil => simp
  | cons s rest ih => simp [ih, write, String.append_assoc]

/-- Every error of a section says something. -/
theorem isFailure_entry (s : Section) : isFailure s.entry = s.error.isSome := by
  rw [isFailure, Section.entry]
  cases s.error with
  | none => rfl
  | some e => simp [AnalyzerProblem.message]

/-- The failures of a report are the sections with an error. -/
theorem failures_foldl_write (sections : List Section) (run started : String) :
    (sections.foldl write { run := run, started := started }).failures =
      sections.countP fun s => s.error.isSome := by
  have hentries : (sections.foldl write { run := run, started := started }).entries =
      sections.map Section.entry :=
    entries_foldl_write sections _
  rw [failures, hentries, ← List.countP_eq_length_filter, List.countP_map]
  exact congrArg (List.countP · sections) (funext isFailure_entry)

/-- The value of a field of a summary, or of one of its parts. -/
def field? (v : Value) (name : String) : Option Value :=
  match v with
  | .map entries => Value.lookup? name entries
  | _ => none

/-- A summary that is saved has a text, which is what the file is given. -/
theorem eq_of_save {t t' : FileTree} {p : Path} {v : Value} (h : save t p v = .ok t') :
    v.isShowable = true ∧ t.write p (summaryText v).toUTF8.toList false = .ok t' := by
  rw [save] at h
  split at h
  · cases h
  · next hshow =>
    split at h
    · cases h
    · split at h
      · cases h
      · next hwrite =>
        cases h
        exact ⟨by simpa using hshow, hwrite⟩

/-- The directory of a file that is written is made first. -/
theorem eq_of_persist {t t' : FileTree} {p : Path} {v : Value} (h : persist t p v = (t', .ok ())) :
    ∃ made, t.makeDirectories p.parent = (made, .ok ()) ∧ save made p v = .ok t' := by
  rw [persist] at h
  split at h
  · cases h
  · split at h
    · cases h
    · next made hmade =>
      split at h
      · cases h
      · next hsave =>
        cases h
        exact ⟨made, hmade, hsave⟩

/-- A summary that has a text is written if its directory is there, or can be made, and its file can
be written. -/
theorem persist_of_write {t made t' : FileTree} {p : Path} {v : Value}
    (hparent : FileTree.hasNul p.parent = false) (hnul : FileTree.hasNul p = false)
    (hshow : v.isShowable = true) (hmade : t.makeDirectories p.parent = (made, .ok ()))
    (hwrite : made.write p (summaryText v).toUTF8.toList false = .ok t') :
    persist t p v = (t', .ok ()) := by
  have hsave : save made p v = .ok t' := by
    rw [save, hshow, hnul, hwrite]
    rfl
  rw [persist, hparent, hmade]
  simp only [hsave, Bool.false_eq_true, if_false]

/-- Nothing but a fault keeps a summary from being written. -/
theorem written_or_fault (t : FileTree) (p : Path) (v : Value) :
    (persist t p v).2 = .ok () ∨ ∃ f, (persist t p v).2 = stop f := by
  have hsave (made : FileTree) : (∃ t', save made p v = .ok t') ∨ ∃ f, save made p v = stop f := by
    rw [save]
    split
    · exact .inr ⟨_, rfl⟩
    · split
      · exact .inr ⟨_, rfl⟩
      · cases made.write p (summaryText v).toUTF8.toList false with
        | error f => exact .inr ⟨_, rfl⟩
        | ok t' => exact .inl ⟨t', rfl⟩
  rw [persist]
  split
  · exact .inr ⟨_, rfl⟩
  · rcases t.makeDirectories p.parent with ⟨made, f | ⟨⟩⟩
    · exact .inr ⟨_, rfl⟩
    · obtain ⟨t', ht'⟩ | ⟨f, hf⟩ := hsave made
      · exact .inl (by simp only [ht'])
      · exact .inr ⟨f, by simp only [hf, stop]⟩

/-- The failure of an analyzer, in whose message there are quotation marks and line ends. -/
def quotedFailure : Section :=
  { file := ⟨.relative, ["a.cc"]⟩, status := some 1
    error := some ⟨"a.cc", .stated "error:\t\"clang\"\r\nnot found"⟩, duration :=
    .ofDecimal false 25 (-2) }

theorem persist_file (v : Value) (hshow : v.isShowable = true) :
    persist ⟨.directory [], []⟩ ⟨.relative, ["s.json"]⟩ v =
      (⟨.directory [("s.json", .file (summaryText v).toUTF8.toList false)], []⟩, .ok ()) := by
  have hmade : FileTree.makeDirectories ⟨.directory [], []⟩ (Path.parent ⟨.relative, ["s.json"]⟩) =
      (⟨.directory [], []⟩, .ok ()) := by cbv
  have hwrite (content : List UInt8) :
    FileTree.write ⟨.directory [], []⟩ ⟨.relative, ["s.json"]⟩ content false =
      .ok ⟨.directory [("s.json", .file content false)], []⟩ := by cbv
  exact persist_of_write (by decide) (by decide) hshow hmade (hwrite _)

theorem read_file (content : List UInt8) :
    FileTree.read ⟨.directory [("s.json", .file content false)], []⟩ ⟨.relative, ["s.json"]⟩ =
      .ok content := by
  cbv

/-- **A summary that is written reads back.** A summary of sections can be written if and only if
all codes, and the count of sections, have few enough digits. What is written is its text; and the
reader of configurations reads the text of a summary as the summary, with its keys in order, and of
its numbers only those that are none settled. -/
theorem persisted_summary_reads_back (run started finished : String) (sections : List Section)
    (toolchain : Option Toolchain) (exitCode : Option Int) :
    let r := sections.foldl write { run := run, started := started }
    let v := r.summary finished toolchain exitCode
    (v.isShowable = true ↔
      sections.length < 10 ^ Text.digitLimit ∧ (∀ s ∈ sections, Fits s.status) ∧ Fits exitCode) ∧
    (∀ t p t', persist t p v = (t', .ok ()) → v.isShowable = true ∧
      ∃ made, t.makeDirectories p.parent = (made, .ok ()) ∧
        made.write p (summaryText v).toUTF8.toList false = .ok t') ∧
    (v.isShowable = true → ∀ (source : Source) file,
      source.tree.read file = .ok (summaryText v).toUTF8.toList →
      ∃ text, source.textOf file = .ok text ∧
        Document.read .json text = .ok (r.settled.summary finished toolchain exitCode)) := by
  intro r v
  have hentries : r.entries = sections.map Section.entry := entries_foldl_write sections _
  refine ⟨?_, fun t p t' h => ?_, fun h source file hfile => read_summaryText h hfile⟩
  · rw [isShowable_summary_iff, hentries, List.length_map, List.forall_mem_map]
    rfl
  · obtain ⟨made, hmade, hsave⟩ := eq_of_persist h
    obtain ⟨hshow, hwrite⟩ := eq_of_save hsave
    exact ⟨hshow, made, hmade, hwrite⟩

/-- The summary of this failure is written to a file, and the file is read back. -/
theorem quotedFailure_reads_back :
    let r := [quotedFailure].foldl write { run := "run", started := "start" }
    let v := r.summary "end" none (some 0)
    ∃ t', persist ⟨.directory [], []⟩ ⟨.relative, ["s.json"]⟩ v = (t', .ok ()) ∧
      ∃ text, Source.textOf { tree := t' } ⟨.relative, ["s.json"]⟩ = .ok text ∧
        Document.read .json text = .ok v := by
  intro r v
  obtain ⟨hwritten, -, hread⟩ :=
    persisted_summary_reads_back "run" "start" "end" [quotedFailure] none (some 0)
  have hlimit : 1 < 10 ^ Text.digitLimit := Nat.one_lt_pow (by decide) (by decide)
  have hshow : v.isShowable = true := by
    refine hwritten.2 ⟨hlimit, List.forall_mem_singleton.2 ?_, ?_⟩
    · rintro i ⟨⟩
      exact hlimit
    · rintro i ⟨⟩
      exact Nat.zero_lt_of_lt hlimit
  have hsettled : r.settled = r := settled_eq_self (List.forall_mem_singleton.2 (by decide +kernel))
  obtain ⟨text, htext, hvalue⟩ := hread hshow { tree := _ } _ (read_file _)
  exact ⟨_, persist_file v hshow, text, htext, hvalue.trans (by rw [hsettled])⟩

end Report
end LintRun
