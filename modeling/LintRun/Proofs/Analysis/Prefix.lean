import Mathlib
import LintRun.Proofs.Analysis.Agreement

/-!
# Proofs — Analysis — Prefixes

What is given out before somebody cancels is what would have been given out anyway.

* `quiet`: the same runner, while no process provokes a cancellation.
* `Course.IsCleanPrefix`: the sections are the first ones of a whole series, no cancellation has
  ended their processes, and a failure is the one that the whole series ends with, at the same
  place.
* `cancelled_run_gives_prefix_of_whole`: whoever cancels, and whenever, leaves a clean prefix.
-/

namespace LintRun

namespace Analysis

/-- The same processes, while none of them provokes a cancellation. -/
def Launcher.quiet (l : Launcher) : Launcher := fun limit command environment =>
  match l limit command environment with
  | .process c => .process { c with cancelled := none }
  | start => start

/-- A verdict says what comes of a task while nobody cancels. -/
theorem Task.verdict_quiet (ctx : Context) (t : Task) :
    t.verdict { ctx with launcher := ctx.launcher.quiet } = t.verdict ctx := by
  simp only [Task.verdict, Launcher.quiet]
  cases ctx.launcher ctx.timeout t.command ctx.environment <;> rfl

end Analysis

namespace Runner

open Analysis

variable {r : Runner}

/-- The same runner, while no process provokes a cancellation. -/
def quiet (r : Runner) : Runner := { r with launcher := r.launcher.quiet }

theorem isSteady_quiet (r : Runner) : r.quiet.context.IsSteady := by
  intro command c hc
  simp only [context, quiet, Launcher.quiet] at hc
  split at hc
  · cases hc
    rfl
  · next hne => exact absurd hc (hne c)

theorem verdicts_quiet (r : Runner) (s : Series) : r.quiet.verdicts s = r.verdicts s :=
  List.map_congr_left fun file _ => Task.verdict_quiet r.context (r.task s file)

namespace Course

/-- What was given out is the beginning of `sections`, no cancellation has ended the process of any
of it, and a failure is the one that ends `sections` there. -/
structure IsCleanPrefix (x : Course) (sections : List Section)
    (failure : Option Failure) : Prop where
  given : x.given <+: sections
  undisturbed : ∀ j p, j < x.given.length → x.crew.process? (x.first + j) = some p →
    p.exited = true ∧ p.isStopped = false
  failure : ∀ f, x.failure = some f → sections = x.given ∧ failure = some f

variable {x : Course}

/-- **Whatever was done to a sound course**, it has given out a clean prefix of the survey. -/
theorem Sound.isCleanPrefix (h : x.Sound r) (hm : r.context.IsMortal) :
    x.IsCleanPrefix (r.survey (r.verdicts x.series)).1 (r.survey (r.verdicts x.series)).2 := by
  refine ⟨?_, fun j p hj hp => ?_, fun f hf => ?_⟩
  · rw [h.survey_eq fun _ => hm]
    exact List.prefix_append _ _
  · obtain ⟨hx, hstopped⟩ := h.process_of_given hj hp
    exact ⟨hx, hstopped hm⟩
  · rw [h.survey_of_failure (fun _ => hm) hf]
    exact ⟨rfl, rfl⟩

end Course

/-- **A cancelled run gives out a clean prefix.** Let a kill that reaches a process alive leave a
negative status. Whoever cancels a series, whenever and how often, the sections that it gives out
are the first ones that it gives out while nobody cancels, none of them comes of a process that a
cancellation has ended, and a failure is the very one that ends the series there while nobody
cancels. So it is with the run that takes all sections at once, whatever cancellations its processes
provoke. -/
theorem cancelled_run_gives_prefix_of_whole (r : Runner) (hmortal : r.context.IsMortal)
    (database : Path) (checks : String) (files : List Path) (c c₀ : Crew)
    (hc₀ : c₀.cancelled = false) :
    let s := r.series database checks files
    let whole := r.quiet.all c₀ s
    let cut := r.all c s
    (∀ turns : List Turn, ((Course.start c s).run r turns).IsCleanPrefix whole.1 whole.2.1) ∧
    ({ Course.start c s with
        given := cut.1, failure := cut.2.1, crew := cut.2.2.1, phase := .over } :
      Course).IsCleanPrefix whole.1 whole.2.1 := by
  intro s whole cut
  have hjobs : s.parallel = true → 1 ≤ r.jobs := one_le_jobs_of_parallel database checks files
  have hwhole : r.survey (r.verdicts s) = (whole.1, whole.2.1) := by
    rw [survey_congr (show r.failFast = r.quiet.failFast from rfl), ← verdicts_quiet]
    exact all_survey (isSteady_quiet r) hc₀ rfl hjobs
  have hclean {x : Course} (h : x.Sound r) (hs : x.series = s) :
      x.IsCleanPrefix whole.1 whole.2.1 := by
    have hprefix := h.isCleanPrefix hmortal
    rwa [hs, hwhole] at hprefix
  have hstart := Course.sound_start r c s
  refine ⟨fun turns => hclean (hstart.run turns) (Course.series_run r _ turns), ?_⟩
  exact hclean ((Course.leads_all rfl hjobs c).sound hstart) rfl

/-- Somebody cancels while the analyzer of the second of three files runs. -/
theorem cancelled_run_gives_first_section :
    let r : Runner :=
      { launcher := fun _ command _ =>
          if command.getLast? = some "b" then .process { cancelled := some .run } else .process {} }
    let files : List Path := [⟨.relative, ["a"]⟩, ⟨.relative, ["b"]⟩, ⟨.relative, ["c"]⟩]
    let work (n i : Nat) : List Turn := List.replicate n (.crew (.work i))
    let cancel : List Turn := .crew .call :: List.replicate 3 (.crew (.cancel 0))
    let turns := .taker :: work 8 0 ++ [.taker, .taker] ++ work 4 1 ++ cancel ++
      work 3 1 ++ [.taker]
    let s := r.series .here "" files
    let whole := r.quiet.all {} s
    let x := (Course.start {} s).run r turns
    r.context.IsMortal ∧ x.phase = .over ∧ (x.crew.process? 1).any Process.isStopped = true ∧
      x.given.length = 1 ∧ whole.1.length = 3 ∧ x.IsCleanPrefix whole.1 whole.2.1 := by
  intro r files work cancel turns s whole x
  have hmortal : r.context.IsMortal := by
    intro command c hc
    simp only [context, r] at hc
    split at hc <;> cases hc <;> exact fun h => by cases h
  have hover : x.phase = .over := by decide +kernel
  have hstopped : (x.crew.process? 1).any Process.isStopped = true := by decide +kernel
  have hgiven : x.given.length = 1 := by decide +kernel
  have hwhole : whole.1.length = 3 := by decide +kernel
  -- nothing is left to compute
  clear_value r files turns
  exact ⟨hmortal, hover, hstopped, hgiven, hwhole,
    (cancelled_run_gives_prefix_of_whole r hmortal .here "" files {} {} rfl).1 turns⟩

end Runner
end LintRun
