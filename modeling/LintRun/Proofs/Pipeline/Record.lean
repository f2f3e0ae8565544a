import Mathlib
import LintRun.Proofs.Pipeline.Completeness

/-!
# Proofs — Pipeline — What a run leaves on record

A run that returns leaves its exit code, its error, the state that it failed in, its toolchain, its
files and its report. No two of them are written at the same time.

* `Resolver.SetsUp`: a version is set up. `Resolver.EndsWith.setsUp`: a resolution that gives a
  toolchain has done so.
* `Pipeline.Record`: how far a run has come before it concludes, with the sections that it has
  written.
* `Pipeline.Runs.exists_record`: every run of a new pipeline has such a record.
* `Pipeline.Returned`: what a run leaves that returns. `Pipeline.Runs.exists_returned`: every such
  run leaves it.
-/

namespace LintRun

namespace Resolver

variable {r : Resolver} {products : Path} {s : Session}

/-- A version is set up: it is the one that is chosen, and its script succeeds. -/
def SetsUp (r : Resolver) (products : Path) (before : Nat) (version : String) : Prop :=
  r.Chooses products before version ∧
    ∃ result, r.answer products before 2 (setupCommands r.product version) = .ok result ∧
      result.status = 0

/-- **A resolution that gives a toolchain has set it up**, and nothing was run after its script. -/
theorem EndsWith.setsUp {t : Toolchain} {session : Session}
    (h : r.EndsWith products s (.ok t, session)) :
    t.status = .active ∧ ∃ version, t.version = some version ∧
    r.SetsUp products s.scripts.length version ∧
      session.scripts.getLast? = some (script products (setupCommands r.product version)) := by
  obtain ⟨scripts, last, hends, hscripts, -⟩ := h
  cases hends with
  | @active version result hchooses hanswer hstatus =>
    refine ⟨rfl, version, rfl, ⟨hchooses, result, hanswer, hstatus⟩, ?_⟩
    rw [show session.scripts = _ from hscripts]
    simp

end Resolver

namespace Pipeline

open Analysis Runner

variable {p : Pipeline} {arguments : List String} {session : Resolver.Session} {written : Report}

/-- The states in which no toolchain is active yet. -/
def State.IsEarly (state : State) : Prop := state = .start ∨ state = .argumentsValidated

/-- The active toolchain of a progress, whose last script has set up its version. -/
def HasActive (p : Pipeline) (session : Resolver.Session) (s : Progress) : Prop :=
  ∃ toolchain version, s.toolchain = some toolchain ∧ toolchain.status = .active ∧
    toolchain.version = some version ∧
    p.resolver.SetsUp p.config.productsDir session.scripts.length version ∧
    s.session.scripts.getLast? =
      some (Resolver.script p.config.productsDir
        (Resolver.setupCommands p.resolver.product version))

/-- The files of a progress are those of the target, or there are none yet. -/
def HasFiles (p : Pipeline) (arguments : List String) (s : Progress) : Prop :=
  s.files = [] ∨ ∃ database target, arguments = [database, target] ∧
    Target.resolve p.tree p.endings target = .ok s.files

/-- **How far a new pipeline has come** before its run concludes, with the sections that it has
written. -/
structure Record (p : Pipeline) (arguments : List String) (session : Resolver.Session)
    (written : Report) (s : Progress) (sections : List Section) : Prop where
  failedIn : s.failedIn = none
  error : s.error = none
  report : s.report = sections.foldl Report.write written
  sections : sections.map Section.file <+: s.files
  files : p.HasFiles arguments s
  toolchain : s.state.IsEarly ∧ s.toolchain = none ∨ ¬ s.state.IsEarly ∧ p.HasActive session s

/-- The stages before an analysis write no section. -/
theorem Prepares.record {outcome : Outcome Job} {s : Progress}
    (h : p.Prepares arguments { session := session, report := written } outcome s) :
    p.Record arguments session written s [] := by
  cases h with
  | badArguments => exact ⟨rfl, rfl, rfl, List.nil_prefix, .inl rfl, .inl ⟨.inl rfl, rfl⟩⟩
  | noToolchain => exact ⟨rfl, rfl, rfl, List.nil_prefix, .inl rfl, .inl ⟨.inr rfl, rfl⟩⟩
  | noTarget _ hends =>
    obtain ⟨hactive, version, hversion, hsetup⟩ := hends.setsUp
    exact ⟨rfl, rfl, rfl, List.nil_prefix, .inl rfl,
      .inr ⟨by simp [State.IsEarly], _, version, rfl, hactive, hversion, hsetup⟩⟩
  | ready hcheck hends htarget =>
    obtain ⟨hactive, version, hversion, hsetup⟩ := hends.setsUp
    obtain ⟨name, hargs, -, -⟩ := eq_of_checkArguments hcheck
    exact ⟨rfl, rfl, rfl, List.nil_prefix, .inr ⟨name, _, hargs, htarget⟩,
      .inr ⟨by simp [State.IsEarly], _, version, rfl, hactive, hversion, hsetup⟩⟩

theorem not_isEarly_analyzed (s : Progress) (sections : List Section) (crew : Crew) :
    ¬ (s.analyzed sections crew).state.IsEarly := by
  rintro (h | h) <;> cases h

/-- An analysis writes the sections that it gives out. -/
theorem Record.analyzed {s : Progress} (h : p.Record arguments session written s [])
    (hlate : ¬ s.state.IsEarly) {sections : List Section}
    (hsections : sections.map Section.file <+: s.files) (crew : Crew) :
    p.Record arguments session written (s.analyzed sections crew) sections := by
  obtain ⟨hfailed, herror, hreport, -, hfiles, hearly | ⟨-, hactive⟩⟩ := h
  · exact absurd hearly.1 hlate
  · refine ⟨hfailed, herror, ?_, hsections, hfiles,
      .inr ⟨not_isEarly_analyzed s sections crew, hactive⟩⟩
    rw [← show s.report = written from hreport]
    rfl

/-- There is no toolchain exactly in the states before it is active. -/
theorem Record.toolchain_eq_none_iff {s : Progress} {sections : List Section}
    (h : p.Record arguments session written s sections) : s.toolchain = none ↔ s.state.IsEarly := by
  obtain ⟨hearly, hnone⟩ | ⟨hlate, toolchain, version, htoolchain, -⟩ := h.toolchain
  · exact iff_of_true hnone hearly
  · exact iff_of_false (by simp [htoolchain]) hlate

theorem Record.hasActive {s : Progress} {sections : List Section}
    (h : p.Record arguments session written s sections) (hsome : s.toolchain ≠ none) :
    p.HasActive session s :=
  h.toolchain.elim (fun hearly => absurd hearly.2 hsome) And.right

/-- **Every run of a new pipeline has a record**, and has an active toolchain if it comes to no
failure. -/
theorem Runs.exists_record {result : Outcome Nat × Progress}
    (h : p.Runs (fun _ => True) arguments { session := session, report := written } result) :
    ∃ outcome s sections, result = conclude (outcome, s) ∧
      p.Record arguments session written s sections ∧
      (outcome = .ok () → ¬ s.state.IsEarly) := by
  have hprepares := p.prepare_prepares arguments { session := session, report := written }
  cases h with
  | refused hstate => exact absurd rfl hstate
  | unprepared _ hprepare =>
    rw [hprepare] at hprepares
    exact ⟨_, _, [], rfl, hprepares.record, fun h => by cases h⟩
  | @analyzed job s turns _ hprepare _ _ =>
    rw [hprepare] at hprepares
    have hlate : ¬ s.state.IsEarly := by
      cases hprepares
      simp [State.IsEarly]
    have hsections : (p.course job turns).given.map Section.file <+: s.files := by
      rw [(files_of_prepare hprepare).1, p.files_course job turns]
      exact List.take_prefix _ _
    exact ⟨_, _, _, rfl, hprepares.record.analyzed hlate hsections _,
      fun _ => not_isEarly_analyzed _ _ _⟩

/-! ### Runs that return -/

/-- **What a run leaves that returns**: the code that it returns is that of its error, the report
has received the sections of the first files, and there is a toolchain, an active one, unless the
run has failed before. -/
structure Returned (p : Pipeline) (arguments : List String) (session : Resolver.Session)
    (written : Report) (code : Nat) (s : Progress) (sections : List Section) : Prop where
  code : code = (s.error.map Problem.exitCode).getD 0
  report : s.report = sections.foldl Report.write written
  sections : sections.map Section.file <+: s.files
  files : p.HasFiles arguments s
  toolchain : s.toolchain = none ↔ ∃ state, s.failedIn = some state ∧ state.IsEarly
  active : s.toolchain ≠ none → p.HasActive session s

/-- **Every run of a new pipeline that returns leaves that.** -/
theorem Runs.exists_returned {code : Nat} {last : Progress}
    (h : p.Runs (fun _ => True) arguments { session := session, report := written }
      (.ok code, last)) :
    ∃ sections, p.Returned arguments session written code last sections := by
  obtain ⟨outcome, s, sections, hresult, hrecord, hlate⟩ := h.exists_record
  refine ⟨sections, ?_⟩
  obtain ⟨rfl, rfl, rfl⟩ | ⟨e, rfl, rfl, rfl⟩ := conclude_eq_ok hresult.symm
  -- a run that is done has left the early states behind it, and has failed in none
  · have hfailed : (s.enter .done).failedIn = none := hrecord.failedIn
    have hsome : (s.enter .done).toolchain ≠ none :=
      fun hnone => hlate rfl (hrecord.toolchain_eq_none_iff.1 hnone)
    refine ⟨?_, hrecord.report, hrecord.sections, hrecord.files, ?_, hrecord.hasActive⟩
    · rw [show (s.enter .done).error = none from hrecord.error]
      rfl
    · simp [hsome, hfailed]
  · refine ⟨rfl, hrecord.report, hrecord.sections, hrecord.files, ?_, hrecord.hasActive⟩
    rw [show (s.fail (some e)).toolchain = s.toolchain from rfl, hrecord.toolchain_eq_none_iff]
    simp [Progress.fail]

end Pipeline
end LintRun
