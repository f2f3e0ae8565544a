import Mathlib
import LintRun.Proofs.CommandLine.Lint
import LintRun.Proofs.Config.Default
import LintRun.Proofs.Pipeline.Record

/-!
# Proofs — CommandLine — What a summary says of its invocation

An invocation tells what became of it by its exit code, its output, its pipeline and its summary.

* `finish_of_summarized`: what an invocation leaves whose summary is written.
* `IsSummary`: a summary that agrees with its invocation, field by field.
* `summary_agrees_with_invocation`: every summary that is written agrees with its invocation.
* `summary_agrees_after_failing_analyzer`: the summary of an invocation whose only analyzer fails.
-/

namespace LintRun.CommandLine

open Analysis

variable {s : Setting} {words : List String} {o : Options} {config : Config}
  {catalog : Catalog} {code : Nat}
  {p : Pipeline.Progress}

/-- What an invocation leaves whose summary is written, if there was one to write. -/
theorem finish_of_summarized (h : (s.summarize o (.ok code, p)).2 = .ok ()) :
    (s.finish o (.ok code, p)).exit = .ok ((p.error.map Problem.exitCode).getD code) ∧
      (s.finish o (.ok code, p)).output = p.report.text ∧
      (s.finish o (.ok code, p)).scripts = p.session.scripts ∧
      (s.finish o (.ok code, p)).tree = (s.summarize o (.ok code, p)).1 := by
  rw [finish_ok]
  rcases hsummary : s.summarize o (.ok code, p) with ⟨tree, _⟩
  rw [hsummary] at h
  cases h
  cases p.error <;> exact ⟨rfl, rfl, rfl, rfl⟩

/-- **A summary that agrees with its invocation.** The file has received its text, and its fields
say what the exit code, the sections that were written and the pipeline say. -/
structure IsSummary (s : Setting) (o : Options) (pipeline : Pipeline) (p : Pipeline.Progress)
    (i : Invocation) (sections : List Section) (file : Path) (v : Value) : Prop where
  written : ∃ made, s.source.tree.makeDirectories file.parent = (made, .ok ()) ∧
    made.write file (Report.summaryText v).toUTF8.toList false = .ok i.tree
  /-- The exit code is that of the error of the pipeline, or that of success. -/
  exitCode : ∃ code : Nat, code = (p.error.map Problem.exitCode).getD 0 ∧ i.exit = .ok code ∧
    Report.field? v "exit_code" = some (.int code)
  /-- The sections are those that the report has received and that were put out. -/
  report : p.report = sections.foldl Report.write { run := s.run, started := s.started }
  output : i.output = String.join (sections.map Section.block)
  analyzed : Report.field? v "files_analyzed" = some (.int sections.length)
  entries : ∃ entries, Report.field? v "sections" = some (.list entries) ∧
    entries.map (Report.field? · "file") = sections.map fun x => some (.str x.file.text)
  failures : Report.field? v "invocation_failures" =
    some (.int (sections.countP fun x => x.error.isSome))
  /-- They are sections of the first files that the target has. -/
  firstFiles : sections.map Section.file <+: p.files
  files : pipeline.HasFiles o.arguments p
  /-- There is no toolchain exactly if the pipeline has failed in one of the states before it is
  active. -/
  toolchain_null : Report.field? v "toolchain" = some .null ↔
    p.failedIn = some .start ∨ p.failedIn = some .argumentsValidated
  /-- Else it is active, and its version is the one that the last script has set up. -/
  toolchain : Report.field? v "toolchain" ≠ some .null →
    ∃ t version, Report.field? v "toolchain" = some t ∧
    Report.field? t "status" = some (.str "active") ∧
    Report.field? t "version" = some (.str version) ∧
    pipeline.resolver.SetsUp pipeline.config.productsDir 0 version ∧
    i.scripts.getLast? =
      some (Resolver.script pipeline.config.productsDir
        (Resolver.setupCommands pipeline.resolver.product version))

/-- A toolchain is told of exactly if there is one. -/
theorem toolchain_summary (r : Report) (finished : String) (toolchain : Option Toolchain)
    (exitCode : Option Int) :
    Report.field? (r.summary finished toolchain exitCode) "toolchain" = some .null ↔
    toolchain = none := by
  cases toolchain with
  | none => exact iff_of_true rfl rfl
  | some t => exact iff_of_false (fun h => by cases Option.some.inj h) (Option.some_ne_none t)

/-- A pipeline that returns has left what its summary says. -/
theorem isSummary_of_returned {file : Path} {sections : List Section}
    (h : (s.pipeline config catalog).Returned o.arguments {}
      { run := s.run, started := s.started } code p sections)
    (hsummary : o.summary = some file) (hwritten : (s.summarize o (.ok code, p)).2 = .ok ()) :
    IsSummary s o (s.pipeline config catalog) p (s.finish o (.ok code, p)) sections file
      (p.report.summary s.finished p.toolchain (some code)) := by
  obtain ⟨hexit, houtput, hscripts, htree⟩ := finish_of_summarized hwritten
  have hpersist : Report.persist s.source.tree file
    (p.report.summary s.finished p.toolchain (some code)) =
      ((s.finish o (.ok code, p)).tree, .ok ()) := by
    rw [htree, ← hwritten, Setting.summarize, hsummary]
  obtain ⟨made, hmade, hsave⟩ := Report.eq_of_persist hpersist
  have hentries : p.report.entries = sections.map Section.entry := by
    rw [h.report, Report.entries_foldl_write]
    rfl
  have hcode : (p.error.map Problem.exitCode).getD code = code := by
    rw [h.code]
    cases p.error <;> rfl
  refine
    { written := ⟨made, hmade, (Report.eq_of_save hsave).2⟩
      exitCode := ⟨code, h.code, hexit.trans (congrArg _ hcode), rfl⟩
      report := h.report
      output := ?output
      analyzed := ?analyzed
      entries := ⟨_, rfl, ?entries⟩
      failures := ?failures
      firstFiles := h.sections
      files := h.files
      toolchain_null := ?toolchain_null
      toolchain := fun hsome => ?toolchain }
  case output =>
    rw [houtput, h.report, Report.text_foldl_write]
    exact String.empty_append
  case analyzed =>
    show some (Value.int p.report.entries.length) = _
    rw [hentries, List.length_map]
  case entries =>
    rw [hentries, List.map_map, List.map_map]
    rfl
  case failures =>
    show some (Value.int p.report.failures) = _
    rw [h.report, Report.failures_foldl_write]
  case toolchain_null =>
    rw [toolchain_summary, h.toolchain]
    simp [Pipeline.State.IsEarly, and_or_left, exists_or]
  case toolchain =>
    obtain ⟨t, version, htoolchain, hactive, hversion, hsetup, hlast⟩ :=
      h.active fun hnone => hsome ((toolchain_summary _ _ _ _).2 hnone)
    refine ⟨Report.toolchainValue t, version, ?_, ?_, ?_, hsetup, hscripts ▸ hlast⟩
    · rw [htoolchain]
      rfl
    · show some (Value.str t.status.text) = _
      rw [hactive]
      rfl
    · show some (Report.optionalText t.version) = _
      rw [hversion]
      rfl

/-- **Every summary that is written agrees with its invocation**, in whatever order its analysis
goes on, and whoever cancels it: with the code that it exits with, which is that of the error of its
pipeline or else 0; with the sections that it puts out, which are those of the first files that the
target has; and with the toolchain that it has set up, unless it has failed before. The command is
one of these invocations. -/
theorem summary_agrees_with_invocation (s : Setting) (words : List String) (o : Options)
    (config : Config) (catalog : Catalog) (hsets : Sets s words o config)
    (hcatalog : Pipeline.catalogOf config = .ok catalog) :
    let pipeline := s.pipeline config catalog
    (pipeline.Runs (fun _ => True) o.arguments s.fresh (pipeline.run o.arguments s.fresh) ∧
      lint s words = s.finish o (pipeline.run o.arguments s.fresh)) ∧
    ∀ (code : Nat) (p : Pipeline.Progress) (file : Path),
      pipeline.Runs (fun _ => True) o.arguments s.fresh (.ok code, p) → o.summary = some file →
      (s.summarize o (.ok code, p)).2 = .ok () →
      ∃ sections, IsSummary s o pipeline p (s.finish o (.ok code, p)) sections file
        (p.report.summary s.finished p.toolchain (some code)) := by
  refine ⟨⟨Pipeline.runs_run _ _ _ _ fun _ _ => trivial, ?_⟩,
    fun code p file hruns hsummary hwritten => ?_⟩
  · rw [lint_of_sets hsets, hcatalog]
    rfl
  · obtain ⟨sections, hreturned⟩ := Pipeline.Runs.exists_returned hruns
    exact ⟨sections, isSummary_of_returned hreturned hsummary hwritten⟩

/-! ### A failing analyzer -/

/-- The analyzer of the only file is killed by a signal. -/
def killed : Pipeline := .oneFile false { code := -11 }

/-- Where an invocation finds the files, the shell and the analyzer of this pipeline. -/
def settingOfKilled : Setting :=
  { source := { tree := killed.tree }, shell := killed.shell,
    launcher := killed.launcher, environment := []
    run := "run", started := "start", finished := "end" }

/-- The options for this pipeline and a summary. -/
def optionsOfKilled : Options :=
  { productsDir := some ⟨.absolute, ["p"]⟩, version := some "v9",
    summary := some ⟨.relative, ["s.json"]⟩
    arguments := ["db", "a.cc"] }

theorem sets_killed : Sets settingOfKilled
    ["--products-dir", "/p", "--clang-version", "v9", "--summary", "s.json", "db",
      "a.cc"] optionsOfKilled
    killed.config := by
  have hexists : killed.tree.isThere settingOfKilled.source.farDefault = .ok false := by
    rw [show settingOfKilled.source.farDefault =
      ⟨.relative, ["config", "tidy_config.json"]⟩ by decide]
    exact FileTree.leadsTo_of_absent _ (.inr rfl) (by decide) rfl rfl (by decide) (by decide)
  have hload : Config.load settingOfKilled.source none "default" = .ok {} :=
    Config.load_none_of_missing hexists _
  have hoverride : Config.override {} optionsOfKilled.overrides = .ok killed.config := by cbv
  refine ⟨by decide +kernel, rfl, ?_⟩
  show (Config.load settingOfKilled.source none "default" >>= _) = _
  rw [hload]
  exact hoverride

theorem catalogOf_killed : Pipeline.catalogOf killed.config = .ok Catalog.curated := by
  have hextend := Catalog.extend_texts Catalog.isIdentifier_curated [] []
  rw [show Catalog.firstBlank? [] = none by decide, List.append_nil, List.append_nil] at hextend
  exact hextend

/-- The section of the file. -/
def killedSection : Section :=
  { file := ⟨.relative, ["a.cc"]⟩, status := some (-11),
    error := some ⟨"a.cc", .terminated "clang-tidy" 11⟩ }

theorem persist_killed (v : Value) (hshow : v.isShowable = true) :
    (Report.persist killed.tree ⟨.relative, ["s.json"]⟩ v).2 = .ok () := by
  have hmade : FileTree.makeDirectories killed.tree (Path.parent ⟨.relative, ["s.json"]⟩) =
      (killed.tree, .ok ()) := by cbv
  have hwrite (content : List UInt8) :
    ∃ t, FileTree.write killed.tree ⟨.relative, ["s.json"]⟩ content false =
      .ok t := ⟨_, by cbv⟩
  obtain ⟨t, ht⟩ := hwrite (Report.summaryText v).toUTF8.toList
  rw [Report.persist_of_write (by decide) (by decide) hshow hmade ht]

theorem isShowable_killed (r : Report) (toolchain : Option Toolchain)
    (hr : r.entries = [killedSection.entry]) :
    (r.summary "end" toolchain (some 0)).isShowable = true := by
  rw [Report.isShowable_summary_iff, hr, List.forall_mem_singleton]
  exact ⟨Nat.one_lt_pow (by decide) (by decide), .of_natAbs_le (by decide),
    .of_natAbs_le (by decide)⟩

/-- The run of this pipeline writes the section. -/
theorem run_killed : ∃ p, killed.run ["db", "a.cc"] settingOfKilled.fresh = (.ok 0, p) ∧
    p.report.entries = [killedSection.entry] ∧
    p.toolchain = some Pipeline.oneFileJob.toolchain := by
  have hverdicts : killed.verdicts Pipeline.oneFileJob = [.completed killedSection] := by decide
  obtain ⟨session, crew, hrun⟩ :=
    Pipeline.run_oneFile_of_verdicts rfl hverdicts settingOfKilled.fresh rfl
  exact ⟨_, hrun, rfl, rfl⟩

/-- The summary of this invocation tells of one file and one failure, and of the toolchain that was
set up. -/
theorem summary_agrees_after_failing_analyzer :
    let words := ["--products-dir", "/p", "--clang-version", "v9", "--summary",
      "s.json", "db", "a.cc"]
    let i := lint settingOfKilled words
    ∃ p sections, let v := p.report.summary "end" p.toolchain (some 0)
      IsSummary settingOfKilled optionsOfKilled killed p i sections ⟨.relative, ["s.json"]⟩ v ∧
        i.exit = .ok 0 ∧ Report.field? v "files_analyzed" = some (.int 1) ∧
        Report.field? v "invocation_failures" = some (.int 1) ∧
        Report.field? v "toolchain" ≠ some .null := by
  intro words i
  obtain ⟨p, hrun, hentries, htoolchain⟩ := run_killed
  obtain ⟨⟨hruns, hlint⟩, hagrees⟩ := summary_agrees_with_invocation settingOfKilled
    words optionsOfKilled
    killed.config Catalog.curated sets_killed catalogOf_killed
  change killed.Runs _ _ _ (killed.run ["db", "a.cc"] settingOfKilled.fresh) at hruns
  change i = settingOfKilled.finish optionsOfKilled (killed.run ["db", "a.cc"] _) at hlint
  rw [hrun] at hruns hlint
  have hwritten : (settingOfKilled.summarize optionsOfKilled (.ok 0, p)).2 = .ok () := by
    show (Report.persist killed.tree ⟨.relative, ["s.json"]⟩
      (p.report.summary "end" p.toolchain (some 0))).2 = .ok ()
    exact persist_killed _ (isShowable_killed p.report p.toolchain hentries)
  obtain ⟨sections, hsummary⟩ := hagrees 0 p ⟨.relative, ["s.json"]⟩ hruns rfl hwritten
  rw [← hlint] at hsummary
  refine ⟨p, sections, hsummary, ?_, ?_, ?_, ?_⟩
  · obtain ⟨code, -, hexit, hcode⟩ := hsummary.exitCode
    obtain rfl : code = 0 := by simpa using (Value.int.inj (Option.some.inj hcode)).symm
    exact hexit
  · show some (Value.int p.report.entries.length) = _
    rw [hentries]
    rfl
  · show some (Value.int p.report.failures) = _
    rw [Report.failures, hentries, show ([killedSection.entry].filter Report.isFailure).length =
      1 by decide]
    rfl
  · rw [Ne, toolchain_summary, htoolchain]
    exact Option.some_ne_none _

end LintRun.CommandLine
