import Mathlib
import LintRun.CommandLine.Lint
import LintRun.Proofs.Checks.Catalog
import LintRun.Proofs.Config.Source
import LintRun.Proofs.Pipeline.Once
import LintRun.Proofs.Report.Summary

/-!
# Proofs — CommandLine — How an invocation ends

What becomes of the problems that an invocation runs into.

* `Lints`: all that an invocation may come to while its analysis goes on in some order, with the
  problem that it runs into, and what comes of its summary.
* `Lints.exit_of_blank`, `Lints.exit_of_written`, `Lints.exit_of_unwritten`: how an invocation with
  a problem ends.
* `problem_ends_invocation`: a problem is told and decides the exit code, unless a check of the
  configuration is blank or the summary cannot be written.
* `blank_check_escapes`: a blank check is a problem that nobody tells the user.
-/

namespace LintRun.CommandLine

open Analysis

variable {s : Setting} {words : List String} {o : Options} {config : Config} {catalog : Catalog}
  {met : Option Problem}
  {written : Outcome Unit} {i : Invocation}

/-! ### The parts of an invocation -/

/-- An invocation whose options are known. -/
def Setting.begun (s : Setting) (o : Options) : Invocation :=
  { exit := .ok 0, tree := s.source.tree, verbose := o.verbose }

/-- The progress of a pipeline that has not run. -/
def Setting.fresh (s : Setting) : Pipeline.Progress :=
  { report := { run := s.run, started := s.started } }

/-- The pipeline for some settings and checks. -/
def Setting.pipeline (s : Setting) (config : Config) (catalog : Catalog) : Pipeline :=
  { config, catalog, tree := s.source.tree, shell := s.shell, launcher := s.launcher
    shellEnvironment := s.environment, environment := s.environment }

/-- An invocation whose pipeline has run, before its summary is written. -/
def Setting.shown (s : Setting) (o : Options) (p : Pipeline.Progress) : Invocation :=
  { s.begun o with
    output := p.report.text
    errors := (s.begun o).errors ++ Console.logText o.verbose p.session.log
    scripts := p.session.scripts }

/-- An invocation after the run of its pipeline. -/
def Setting.finish (s : Setting) (o : Options) : Outcome Nat × Pipeline.Progress → Invocation
  | (.ok code, p) => conclude s o p code (s.shown o p)
  | (.error (.fault .interrupted), p) =>
    { s.shown o p with
      exit := .ok interruptedStatus
      errors := (s.shown o p).errors ++ Console.lines "Interrupted; stopped running clang-tidy." }
  | (.error f, p) => { s.shown o p with exit := .error f }

/-- An invocation with a catalog to run its pipeline with, or without one. -/
def Setting.launch (s : Setting) (o : Options) (config : Config) : Outcome Catalog → Invocation
  | .error f => { s.begun o with exit := .error f }
  | .ok catalog => s.finish o ((s.pipeline config catalog).run o.arguments s.fresh)

/-- What comes of the summary after the run of a pipeline; without an exit code none is written. -/
def Setting.summarize (s : Setting) (o : Options) : Outcome Nat × Pipeline.Progress →
    FileTree × Outcome Unit
  | (.ok code, p) =>
    match o.summary with
    | none => (s.source.tree, .ok ())
    | some file => Report.persist s.source.tree file
        (p.report.summary s.finished p.toolchain (some code))
  | (.error _, _) => (s.source.tree, .ok ())

theorem execute_eq (pipeline : Pipeline) :
    execute s o pipeline (s.begun o) = s.finish o (pipeline.run o.arguments s.fresh) := by
  have hfresh : ({ report := { run := s.run, started := s.started } } : Pipeline.Progress) =
      s.fresh := rfl
  rw [execute]
  simp only [hfresh]
  rcases pipeline.run o.arguments s.fresh with ⟨(_ | f) | code, p⟩
  · rfl
  · cases f <;> rfl
  · rfl

/-- A run with an exit code: its summary is written before the user is told anything. -/
theorem finish_ok (code : Nat) (p : Pipeline.Progress) :
    s.finish o (.ok code, p) =
      match s.summarize o (.ok code, p) with
      | (tree, .error f) => { s.shown o p with tree := tree, exit := .error f }
      | (tree, .ok ()) =>
        match p.error with
        | some e => { s.shown o p with tree := tree }.failWith e
        | none =>
          { s.shown o p with
            tree := tree
            exit := .ok code
            errors := (s.shown o p).errors ++ failureText p.report } := by
  have htree : (s.shown o p).tree = s.source.tree := rfl
  rw [Setting.finish, Setting.summarize, conclude, htree]
  cases o.summary with
  | none => cases p.error <;> rfl
  | some file =>
    dsimp only
    rcases Report.persist s.source.tree file
      (p.report.summary s.finished p.toolchain (some code)) with ⟨tree, _ | ⟨⟩⟩
    · rfl
    · cases p.error <;> rfl

/-- After the summary the problem of the pipeline is told, and decides the exit code. -/
theorem finish_of_written {code : Nat} {p : Pipeline.Progress}
    (h : (s.summarize o (.ok code, p)).2 = .ok ()) :
    (p.error = none → (s.finish o (.ok code, p)).exit = .ok code) ∧
    ∀ e, p.error = some e → (s.finish o (.ok code, p)).exit = .ok e.exitCode ∧
      ∃ before, (s.finish o (.ok code, p)).errors = before ++ Console.problemText e := by
  rw [finish_ok]
  rcases hsummary : s.summarize o (.ok code, p) with ⟨tree, _⟩
  rw [hsummary] at h
  cases h
  refine ⟨fun herror => ?_, fun e herror => ?_⟩
  · simp only [herror]
  · simp only [herror]
    exact ⟨rfl, _, rfl⟩

/-- A fault that keeps the summary from being written ends the invocation. -/
theorem finish_of_unwritten {result : Outcome Nat × Pipeline.Progress} {f : Fault}
    (h : (s.summarize o result).2 = stop f) : (s.finish o result).exit = stop f := by
  rcases result with ⟨_ | code, p⟩
  · cases h
  · rw [finish_ok]
    rcases hsummary : s.summarize o (.ok code, p) with ⟨tree, _⟩
    rw [hsummary] at h
    cases h
    rfl

/-- Nothing but a fault keeps a summary from being written. -/
theorem summarize_cases (s : Setting) (o : Options) (result : Outcome Nat × Pipeline.Progress) :
    (s.summarize o result).2 = .ok () ∨ ∃ f, (s.summarize o result).2 = stop f := by
  rcases result with ⟨_ | code, p⟩
  · exact .inl rfl
  · rw [Setting.summarize]
    cases o.summary with
    | none => exact .inl rfl
    | some file => exact Report.written_or_fault _ _ _

/-- No problem leaves an invocation whose pipeline has run. -/
theorem finish_ne_report (outcome : Outcome Unit) (progress : Pipeline.Progress) (q : Problem) :
    (s.finish o (Pipeline.conclude (outcome, progress))).exit ≠ report q := by
  have hok (code : Nat) (p : Pipeline.Progress) : (s.finish o (.ok code, p)).exit ≠ report q := by
    intro hexit
    obtain hwritten | ⟨f, hf⟩ := summarize_cases s o (.ok code, p)
    · cases herror : p.error with
      | none => cases ((finish_of_written hwritten).1 herror).symm.trans hexit
      | some e => cases ((finish_of_written hwritten).2 e herror).1.symm.trans hexit
    · cases (finish_of_unwritten hf).symm.trans hexit
  rcases outcome with (p | f) | _
  · exact hok _ _
  · cases f <;> exact fun h => by cases h
  · exact hok _ _

/-! ### Invocations -/

/-- The settings of an invocation are there. -/
structure Sets (s : Setting) (words : List String) (o : Options) (config : Config) : Prop where
  options : Options.ofWords words = .ok o
  arguments : o.arguments.length = 2
  settings : o.settings s.source = .ok config

/-- The problem that a failure before the pipeline is there comes to: a file that is missing is a
problem of the configuration. -/
def earlyProblem? : Failure → Option Problem
  | .problem p => some p
  | .fault (.missingConfig name file) => some (.configuration (.missing name file))
  | .fault _ => none

/-- The problem that ends a pipeline. -/
def problem? : Outcome Unit → Option Problem
  | .error (.problem p) => some p
  | _ => none

/-- **An invocation**, with the problem that it runs into and what comes of its summary. Its
analysis goes on in any order. -/
inductive Lints (s : Setting) (words : List String) : Option Problem →
    Outcome Unit → Invocation → Prop
  | refused {f : OptionFault} (h : Options.ofWords words = .error f) :
      Lints s words none (.ok ()) (lint s words)
  | usage {o : Options} (h : Options.ofWords words = .ok o) (hcount : o.arguments.length ≠ 2) :
      Lints s words (some .usage) (.ok ()) (lint s words)
  | unset {o : Options} {f : Failure} (h : Options.ofWords words = .ok o)
      (hcount : o.arguments.length = 2)
      (hsettings : o.settings s.source = .error f) :
      Lints s words (earlyProblem? f) (.ok ()) (lint s words)
  | unchecked {o : Options} {config : Config} {p : Problem} (h : Sets s words o config)
      (hcatalog : Pipeline.catalogOf config = report p) :
      Lints s words (some p) (.ok ()) (lint s words)
  | ran {o : Options} {config : Config} {catalog : Catalog} {outcome : Outcome Unit}
      {progress : Pipeline.Progress}
      (h : Sets s words o config) (hcatalog : Pipeline.catalogOf config = .ok catalog)
      (hruns : (s.pipeline config catalog).Runs (fun _ => True) o.arguments s.fresh
        (Pipeline.conclude (outcome, progress))) :
      Lints s words (problem? outcome) (s.summarize o (Pipeline.conclude (outcome, progress))).2
        (s.finish o (Pipeline.conclude (outcome, progress)))

/-- A check that the configuration of an invocation adds is blank. -/
def HasBlankCheck (s : Setting) (words : List String) : Prop :=
  ∃ o config, Sets s words o config ∧
    ∃ check ∈ config.extraRequired ++ config.extraOptional, Catalog.isIdentifier check = false

/-! ### What the command does -/

/-- An invocation whose options are known. -/
theorem lint_of_options (h : Options.ofWords words = .ok o) :
    lint s words =
      if o.arguments.length ≠ 2 then
        Invocation.failWith { exit := .ok 0, tree := s.source.tree } .usage
      else
        match o.settings s.source with
        | .error f => (s.begun o).failEarly f
        | .ok config => s.launch o config (Pipeline.catalogOf config) := by
  rw [lint]
  -- nothing depends on what the catalog is, and no step is to compute it
  obtain ⟨catalogOf, hcatalogOf⟩ : ∃ catalogOf, catalogOf = Pipeline.catalogOf := ⟨_, rfl⟩
  rw [← hcatalogOf]
  simp only [h]
  split
  · rfl
  · cases o.settings s.source with
    | error f => rfl
    | ok config =>
      dsimp only
      cases catalogOf config with
      | error f => rfl
      | ok catalog => exact execute_eq _

theorem lint_of_usage (h : Options.ofWords words = .ok o) (hcount : o.arguments.length ≠ 2) :
    lint s words = Invocation.failWith { exit := .ok 0, tree := s.source.tree } .usage := by
  rw [lint_of_options h, if_pos hcount]

theorem lint_of_unset (h : Options.ofWords words = .ok o) (hcount : o.arguments.length = 2)
    {f : Failure} (hsettings : o.settings s.source = .error f) :
    lint s words = (s.begun o).failEarly f := by
  rw [lint_of_options h, if_neg (not_not.2 hcount), hsettings]

theorem lint_of_sets (h : Sets s words o config) :
    lint s words = s.launch o config (Pipeline.catalogOf config) := by
  rw [lint_of_options h.options, if_neg (not_not.2 h.arguments), h.settings]

/-- The invocation that takes all sections at once is one of them. -/
theorem exists_lints (s : Setting) (words : List String) :
    ∃ met written, Lints s words met written (lint s words) := by
  cases hwords : Options.ofWords words with
  | error f => exact ⟨_, _, .refused hwords⟩
  | ok o =>
    by_cases hcount : o.arguments.length = 2
    · cases hsettings : o.settings s.source with
      | error f => exact ⟨_, _, .unset hwords hcount hsettings⟩
      | ok config =>
        have hsets : Sets s words o config := ⟨hwords, hcount, hsettings⟩
        obtain ⟨-, catalog, hcatalog⟩ | ⟨-, index, group, hcatalog⟩ :=
          Catalog.catalogOf_cases config
        · have hruns := (s.pipeline config catalog).runs_run o.arguments s.fresh (fun _ => True)
            fun _ _ => trivial
          obtain ⟨outcome, progress, hresult, -⟩ := hruns.exists_conclude rfl
          have hlints := Lints.ran hsets hcatalog (hresult ▸ hruns)
          have hlint : lint s words = s.finish o (Pipeline.conclude (outcome, progress)) := by
            rw [lint_of_sets hsets, hcatalog, Setting.launch, ← hresult]
          exact ⟨_, _, hlint ▸ hlints⟩
        · exact ⟨_, _, .unchecked hsets hcatalog⟩
    · exact ⟨_, _, .usage hwords hcount⟩

/-! ### How invocations end -/

theorem problem?_eq_some_iff {outcome : Outcome Unit} {p : Problem} :
    problem? outcome = some p ↔ outcome = .error (.problem p) := by
  constructor
  · intro h
    rcases outcome with (q | f) | _
    · rw [Option.some.inj h]
    · cases h
    · cases h
  · rintro rfl
    rfl

theorem Sets.unique (h : Sets s words o config) {o' : Options} {config' : Config}
    (h' : Sets s words o' config') :
    o' = o ∧ config' = config := by
  obtain rfl : o' = o := Except.ok.inj (h'.options.symm.trans h.options)
  exact ⟨rfl, Except.ok.inj (h'.settings.symm.trans h.settings)⟩

/-- The catalog of an invocation that has one is a catalog of checks none of which is blank. -/
theorem Sets.not_hasBlankCheck (h : Sets s words o config)
    (hcatalog : Pipeline.catalogOf config = .ok catalog) :
    ¬ HasBlankCheck s words := by
  rintro ⟨o', config', h', check, hcheck, hblank⟩
  obtain ⟨rfl, rfl⟩ := h.unique h'
  obtain ⟨hall, -⟩ | ⟨-, index, group, hproblem⟩ := Catalog.catalogOf_cases config'
  · rw [hall check hcheck] at hblank
    cases hblank
  · cases hproblem.symm.trans hcatalog

/-- An invocation whose checks are no catalog has a blank check. -/
theorem Sets.hasBlankCheck (h : Sets s words o config) {p : Problem}
    (hcatalog : Pipeline.catalogOf config = report p) :
    HasBlankCheck s words := by
  obtain ⟨-, catalog, hok⟩ | ⟨⟨check, hcheck, hblank⟩, -⟩ := Catalog.catalogOf_cases config
  · cases hok.symm.trans hcatalog
  · exact ⟨o, config, h, check, hcheck, hblank⟩

theorem failEarly_of_problem {f : Failure} {p : Problem} (h : earlyProblem? f = some p) :
    i.failEarly f = i.failWith p := by
  rcases f with q | f
  · rw [Invocation.failEarly, Option.some.inj h]
  · cases f with
    | missingConfig name file => rw [Invocation.failEarly, Option.some.inj h]
    | _ => cases h

theorem failEarly_ne_report (i : Invocation) (f : Failure) (q : Problem) :
    (i.failEarly f).exit ≠ report q := by
  intro h
  rcases f with p | f
  · cases h
  · cases f <;> cases h

/-- **A blank check escapes**: the problem that it is leaves the invocation, and nobody is told. -/
theorem Lints.exit_of_blank (h : Lints s words met written i) (hblank : HasBlankCheck s words) :
    ∃ p, met = some p ∧ i.exit = report p ∧ i.output = "" ∧ i.errors = "" := by
  obtain ⟨o, config, hsets, check, hcheck, hcheckblank⟩ := hblank
  cases h with
  | refused hwords => cases hwords.symm.trans hsets.options
  | usage hwords hcount =>
    obtain rfl := Except.ok.inj (hwords.symm.trans hsets.options)
    exact absurd hsets.arguments hcount
  | unset hwords hcount hsettings =>
    obtain rfl := Except.ok.inj (hwords.symm.trans hsets.options)
    cases hsettings.symm.trans hsets.settings
  | unchecked hsets' hcatalog =>
    rw [lint_of_sets hsets', hcatalog]
    exact ⟨_, rfl, rfl, rfl, rfl⟩
  | ran hsets' hcatalog =>
    exact absurd ⟨_, _, hsets, check, hcheck, hcheckblank⟩ (hsets'.not_hasBlankCheck hcatalog)

/-- **A problem is told and decides the exit code** if no check is blank and the summary is
written. -/
theorem Lints.exit_of_written {p : Problem} (h : Lints s words met written i) (hmet : met = some p)
    (hwritten : written = .ok ()) (hblank : ¬ HasBlankCheck s words) :
    i.exit = .ok p.exitCode ∧ ∃ before, i.errors = before ++ Console.problemText p := by
  cases h with
  | refused hwords => cases hmet
  | usage hwords hcount =>
    cases hmet
    rw [lint_of_usage hwords hcount]
    exact ⟨rfl, _, rfl⟩
  | unset hwords hcount hsettings =>
    rw [lint_of_unset hwords hcount hsettings, failEarly_of_problem hmet]
    exact ⟨rfl, _, rfl⟩
  | unchecked hsets hcatalog => exact absurd (hsets.hasBlankCheck hcatalog) hblank
  | @ran o _ _ outcome progress hsets hcatalog hruns =>
    obtain rfl := problem?_eq_some_iff.1 hmet
    exact (finish_of_written hwritten).2 p rfl

/-- A summary that cannot be written hides the problem behind a fault. -/
theorem Lints.exit_of_unwritten (h : Lints s words met written i) (hwritten : written ≠ .ok ()) :
    ∃ f, written = stop f ∧ i.exit = stop f := by
  cases h with
  | refused | usage | unset | unchecked => exact absurd rfl hwritten
  | @ran o _ _ outcome progress hsets hcatalog hruns =>
    obtain hok | ⟨f, hf⟩ := summarize_cases s o (Pipeline.conclude (outcome, progress))
    · exact absurd hok hwritten
    · exact ⟨f, hf, finish_of_unwritten hf⟩

/-- No problem leaves an invocation without a blank check. -/
theorem Lints.exit_ne_report (h : Lints s words met written i) (hblank : ¬ HasBlankCheck s words)
    (q : Problem) :
    i.exit ≠ report q := by
  cases h with
  | refused hwords =>
    rw [lint, hwords]
    exact fun h => by cases h
  | usage hwords hcount =>
    rw [lint_of_usage hwords hcount]
    exact fun h => by cases h
  | unset hwords hcount hsettings =>
    rw [lint_of_unset hwords hcount hsettings]
    exact failEarly_ne_report _ _ q
  | unchecked hsets hcatalog => exact absurd (hsets.hasBlankCheck hcatalog) hblank
  | ran => exact finish_ne_report _ _ q

/-! ### Invocations with one configuration -/

/-- An invocation with a configuration, where every script and every analyzer succeeds. -/
def settingOf (configuration : String) : Setting :=
  { source := .holding configuration, shell := fun _ _ _ => .ok {},
    launcher := fun _ _ _ => .process {}
    environment := [], run := "run", started := "start", finished := "end" }

theorem ofWords_configured :
    Options.ofWords ["-c", "c.json", "db", "a.cc"] =
      .ok { config := some "c.json", arguments := ["db", "a.cc"] } := by
  cbv

/-- The settings of a configuration that is a mapping. -/
theorem settings_configured {entries : List (Value × Value)} {text : String}
    (h : Json.IsData (.map entries)) (htext : Json.print .oneLine (.map entries) = text) :
    Options.settings { config := some "c.json", arguments := ["db", "a.cc"] }
      (settingOf text).source =
      Config.assignAll {} entries := by
  have hload : Config.load (Source.holding text) (some "c.json") "default" =
      Config.assignAll {} entries := by
    rw [Config.load_eq, Source.entry_holding h htext]
    rfl
  rw [Options.settings, settingOf, hload]
  cases Config.assignAll {} entries <;> rfl

theorem isFile_database (configuration : String) :
    (settingOf configuration).source.tree.isFile (Path.ofString "db") = .ok false := by
  show FileTree.isFile ⟨.directory [("c.json", .file configuration.toUTF8.toList false)], []⟩
    (Path.ofString "db") = _
  generalize configuration.toUTF8.toList = content
  cbv

/-! ### Problems -/

/-- **A problem is told and decides the exit code, unless a check is blank or the summary cannot be
written.** Every invocation whose command line is accepted and that runs into a problem, in its
arguments, its settings, its checks or its pipeline, ends with the exit code of the problem, the
last thing that it prints; but a blank check leaves the invocation as a problem of which nobody is
told, and a summary that cannot be written hides every other one behind a fault. No problem but a
blank check ever leaves an invocation. -/
theorem problem_ends_invocation (s : Setting) (words : List String) :
    (∃ met written, Lints s words met written (lint s words)) ∧
    ∀ met written i, Lints s words met written i →
      (∀ p, met = some p → ¬ HasBlankCheck s words → written = .ok () →
        i.exit = .ok p.exitCode ∧ ∃ before, i.errors = before ++ Console.problemText p) ∧
      (HasBlankCheck s words → ∃ p, met = some p ∧ i.exit = report p ∧
        i.output = "" ∧ i.errors = "") ∧
      (written ≠ .ok () → ∃ f, written = stop f ∧ i.exit = stop f) ∧
      ((∃ p, i.exit = report p) ↔ HasBlankCheck s words) := by
  refine ⟨exists_lints s words,
    fun met written i h => ⟨fun p hmet hblank hwritten => ?_, h.exit_of_blank,
    h.exit_of_unwritten, fun ⟨p, hp⟩ => ?_, fun hblank => ?_⟩⟩
  · exact h.exit_of_written hmet hwritten hblank
  · by_contra hblank
    exact h.exit_ne_report hblank p hp
  · obtain ⟨p, -, hp, -⟩ := h.exit_of_blank hblank
    exact ⟨p, hp⟩

/-- Without a database an invocation ends with the exit code 3. -/
theorem missing_database_ends_invocation :
    let s := settingOf "\x7b\x7d"
    let words := ["-c", "c.json", "db", "a.cc"]
    let p := Problem.missingDatabase ⟨.relative, ["db"]⟩
    Lints s words (some p) (.ok ()) (lint s words) ∧ ¬ HasBlankCheck s words ∧
      (lint s words).exit = .ok 3 ∧
      ∃ before, (lint s words).errors = before ++ Console.problemText p := by
  intro s words p
  have hdata : Json.IsData (.map (Value.entriesWith [])) :=
    .map (by decide) fun _ h => absurd h List.not_mem_nil
  have hsets : Sets s words { config := some "c.json", arguments := ["db", "a.cc"] } {} :=
    ⟨ofWords_configured, rfl, settings_configured hdata (by decide)⟩
  obtain ⟨-, catalog, hcatalog⟩ | ⟨⟨check, hcheck, -⟩, -⟩ := Catalog.catalogOf_cases {}
  · have hcheck : (s.pipeline {} catalog).checkArguments ["db", "a.cc"] = report p := by
      rw [Pipeline.checkArguments]
      simp only [Setting.pipeline, isFile_database, s]
      rfl
    have hprepare : ((s.pipeline {} catalog).prepare ["db", "a.cc"]).run s.fresh =
        (report p, s.fresh) := by
      rw [Pipeline.prepare, hcheck]
      rfl
    have hlint : lint s words = s.finish { config := some "c.json", arguments := ["db", "a.cc"] }
        (Pipeline.conclude (report p, s.fresh)) := by
      rw [lint_of_sets hsets, hcatalog, Setting.launch, Pipeline.run_eq rfl, hprepare]
      rfl
    have hlints : Lints s words (some p) (.ok ()) (lint s words) :=
      hlint ▸ .ran hsets hcatalog (.unprepared rfl hprepare)
    have hblank := hsets.not_hasBlankCheck hcatalog
    exact ⟨hlints, hblank, ((problem_ends_invocation s words).2 _ _ _ hlints).1 p rfl hblank rfl⟩
  · cases hcheck

/-- **A blank check that nobody is told of**: it is a text for the configuration, but no check for
the catalog. -/
theorem blank_check_escapes :
    let s := settingOf "\x7b\"extra_required_checks\": [\" \"]\x7d"
    let words := ["-c", "c.json", "db", "a.cc"]
    let p := Problem.configuration (.emptyCheck 75 .required)
    Lints s words (some p) (.ok ()) (lint s words) ∧ (lint s words).exit = report p ∧
      (lint s words).errors = "" := by
  intro s words p
  have hdata : Json.IsData
      (.map (Value.entriesWith [("extra_required_checks", .list [.str " "])])) :=
    .map (by decide) (List.forall_mem_singleton.2 (.list (List.forall_mem_singleton.2 (.str " "))))
  have hsets : Sets s words { config := some "c.json", arguments := ["db", "a.cc"] }
      { extraRequired := [" "] } := by
    refine ⟨ofWords_configured, rfl, (settings_configured hdata (by decide)).trans ?_⟩
    cbv
  have hcatalog : Pipeline.catalogOf { extraRequired := [" "] } = report p := by
    have hextend := Catalog.extend_texts Catalog.isIdentifier_curated [" "] []
    rw [show Catalog.firstBlank? [" "] = some 0 by decide] at hextend
    exact hextend
  refine ⟨.unchecked hsets hcatalog, ?_⟩
  rw [lint_of_sets hsets, hcatalog]
  exact ⟨rfl, rfl⟩

end LintRun.CommandLine
