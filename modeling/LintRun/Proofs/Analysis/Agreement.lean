import Mathlib
import LintRun.Proofs.Analysis.Progress
import LintRun.Proofs.Analysis.Series

/-!
# Proofs — Analysis — Agreement

A series gives out the same sections and ends in the same way, however many jobs work at it.

* `all_survey`: what is taken at once is the survey of the verdicts, if no process provokes a
  cancellation.
* `parallel_agrees_with_sequential`: every order in which parallel tasks go on leads to what one job
  gives out.
-/

namespace LintRun.Runner

open Analysis

variable {r : Runner}

theorem one_le_jobs_of_parallel (database : Path) (checks : String) (files : List Path)
    (h : (r.series database checks files).parallel = true) : 1 ≤ r.jobs := by
  simp only [series, Bool.and_eq_true, decide_eq_true_eq] at h
  exact h.1.le

/-- **What is taken at once is the survey of the verdicts**, if no process provokes a
cancellation. -/
theorem all_survey (hsteady : r.context.IsSteady) {c : Crew} (hc : c.cancelled = false) {s : Series}
    (hplace : s.place = none) (hj : s.parallel = true → 1 ≤ r.jobs) :
    r.survey (r.verdicts s) = ((r.all c s).1, (r.all c s).2.1) := by
  obtain ⟨turns, hrun, hcalm⟩ := Course.leads_all hplace hj c
  have h := Course.run_survey hc s (hcalm hsteady) (by rw [hrun])
  rwa [hrun] at h

/-- **Parallel jobs agree with one job.** Let nobody cancel. In whatever order the tasks of a series
go on, it comes to its end, and then it has given out the sections that one job gives out, in the
same order, and has ended in the same way. So does the run that takes all sections at once. -/
theorem parallel_agrees_with_sequential (r : Runner) (hsteady : r.context.IsSteady)
    (database : Path) (checks : String) (files : List Path) (c c₁ : Crew) (hc : c.cancelled = false)
    (hc₁ : c₁.cancelled = false) :
    let s := r.series database checks files
    let one : Runner := { r with jobs := 1 }
    let alone := one.all c₁ (one.series database checks files)
    let whole := r.all c s
    (∀ turns : List Turn, (∀ turn ∈ turns, turn.isCalm = true) →
      let x := (Course.start c s).run r turns
      (x.phase = .over → x.given = alone.1 ∧ x.failure = alone.2.1) ∧
      ∃ more : List Turn, (∀ turn ∈ more, turn.isCalm = true) ∧ (x.run r more).phase = .over) ∧
    whole.1 = alone.1 ∧ whole.2.1 = alone.2.1 := by
  intro s one alone whole
  have hjobs : s.parallel = true → 1 ≤ r.jobs := one_le_jobs_of_parallel database checks files
  -- neither the commands nor the context depend on the number of jobs
  have halone : r.survey (r.verdicts s) = (alone.1, alone.2.1) := by
    rw [survey_congr (show r.failFast = one.failFast from rfl)]
    exact all_survey (r := one) (s := one.series database checks files) hsteady hc₁ rfl
      (one_le_jobs_of_parallel database checks files)
  refine ⟨fun turns hcalm => ⟨fun hover => ?_, ?_⟩, ?_⟩
  · have hsurvey := Course.run_survey hc s hcalm hover
    exact Prod.mk.inj (hsurvey.symm.trans halone)
  · exact Course.exists_over ((Course.sound_start r c s).run turns)
      ((Course.IsAttended.start c s).run turns)
      (by rw [Course.series_run]; exact hjobs)
  · have hsurvey := all_survey (c := c) hsteady hc rfl hjobs
    exact Prod.mk.inj (hsurvey.symm.trans halone)

/-- Two jobs, three files: the second file fails first, the first section is taken then, and the
analyzer of the third file is killed because the second one ends the series. -/
theorem parallel_agrees_out_of_order :
    let r : Runner :=
      { jobs := 2, failFast := true
        launcher := fun _ command _ =>
          if command.getLast? = some "b" then .process { code := -11 } else .process {} }
    let files : List Path := [⟨.relative, ["a"]⟩, ⟨.relative, ["b"]⟩, ⟨.relative, ["c"]⟩]
    let work (n i : Nat) : List Turn := List.replicate n (.crew (.work i))
    let take (n : Nat) : List Turn := List.replicate n .taker
    let turns := take 1 ++ work 1 0 ++ work 8 1 ++ work 7 0 ++ work 4 2 ++
      take 12 ++ work 3 2 ++ take 1
    let one : Runner := { r with jobs := 1 }
    let alone := one.all {} (one.series .here "" files)
    let x := (Course.start {} (r.series .here "" files)).run r turns
    r.context.IsSteady ∧ x.phase = .over ∧ (x.crew.process? 2).any Process.isStopped = true ∧
      x.given = alone.1 ∧ x.failure = alone.2.1 ∧ alone.1.length = 1 ∧ alone.2.1.isSome = true := by
  intro r files work take turns one alone x
  have hsteady : r.context.IsSteady := by
    intro command c hc
    simp only [context, r] at hc
    split at hc <;> cases hc <;> rfl
  have hover : x.phase = .over := by decide +kernel
  have hcalm : ∀ turn ∈ turns, turn.isCalm = true := by decide
  have hstopped : (x.crew.process? 2).any Process.isStopped = true := by decide +kernel
  have hone : alone.1.length = 1 := by decide +kernel
  have hfailed : alone.2.1.isSome = true := by decide +kernel
  -- nothing is left to compute
  clear_value r files turns
  obtain ⟨hgiven, hfailure⟩ :=
    ((parallel_agrees_with_sequential r hsteady .here "" files {} {} rfl rfl).1 turns hcalm).1 hover
  exact ⟨hsteady, hover, hstopped, hgiven, hfailure, hone, hfailed⟩

end LintRun.Runner
