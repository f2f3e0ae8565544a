import Mathlib
import LintRun.Proofs.Analysis.Course

/-!
# Proofs — Analysis — Outcomes

What the one who takes the sections of a series gets, measured against the survey of the verdicts.

* `Course.Sound.survey_eq`: a course gives out the survey of the verdicts, as far as it has come, if
  the flag is down or kills decide how processes end.
* `Course.Sound.survey_of_failure`: a failure is the one that the survey ends with, at the same
  place.
* `Course.run_survey`: a course that nobody cancels gives out the whole survey.
-/

namespace LintRun.Runner

open Analysis

variable {r : Runner}

@[simp] theorem length_verdicts (r : Runner) (s : Series) :
    (r.verdicts s).length = s.files.length := by
  simp [verdicts]

namespace Course

variable {x : Course}

namespace Sound

/-- A result that is there is the verdict on its file, if it is any. -/
theorem verdict_eq (h : x.Sound r) (hm : x.crew.cancelled = true → r.context.IsMortal) {j : Nat}
    {result : Result} (hr : x.crew.result? (x.first + j) = some result) (hn : result ≠ .nothing) :
    (r.verdicts x.series)[j]? = some result := by
  obtain ⟨t, ht, hres⟩ := Crew.result?_eq_some_iff.1 hr
  obtain ⟨file, hfile, hf, hcmd⟩ := h.errands j t ht
  have hv := (h.tasks _ t (Nat.le_add_right _ _) ht).verdict_eq hres hn fun hb p hp => hm hb _ _ hp
  have hsame : (r.task x.series file).verdict r.context = t.verdict r.context := by
    simp only [Task.verdict, task, hf, hcmd]
  simp [verdicts, hfile, hsame, hv]

/-- The process of a section that was given out has ended, and no cancellation has stopped it, if
kills decide how processes end. -/
theorem process_of_given (h : x.Sound r) {j : Nat} {p : Process} (hj : j < x.given.length)
    (hp : x.crew.process? (x.first + j) = some p) :
    p.exited = true ∧ (r.context.IsMortal → p.isStopped = false) := by
  obtain ⟨t, ht, hprocess⟩ := Crew.process?_eq_some_iff.1 hp
  obtain ⟨t', ht', hresult⟩ :=
    Crew.result?_eq_some_iff.1 (h.given j _ (List.getElem?_eq_getElem hj)).1
  obtain rfl : t = t' := Option.some.inj (ht.symm.trans ht')
  obtain ⟨hs, hx, hstopped⟩ :=
    (h.tasks _ t (Nat.le_add_right _ _) ht).process_of_completed hresult hprocess
  refine ⟨hx, fun hm => ?_⟩
  rw [← Bool.not_eq_true]
  exact fun hp => hstopped hp (hm _ _ hs)

/-- **A course gives out the survey of the verdicts**, as far as it has come. -/
theorem survey_eq (h : x.Sound r) (hm : x.crew.cancelled = true → r.context.IsMortal) :
    r.survey (r.verdicts x.series) =
      (x.given ++ (r.survey ((r.verdicts x.series).drop x.given.length)).1,
        (r.survey ((r.verdicts x.series).drop x.given.length)).2) := by
  refine survey_eq_append fun j s hj => ?_
  obtain ⟨hr, hg⟩ := h.given j s hj
  exact ⟨_, h.verdict_eq hm hr (by simp), hg⟩

/-- The task that is waited for has failed: so does the survey, at the same place. -/
theorem survey_of_error (h : x.Sound r) (hm : x.crew.cancelled = true → r.context.IsMortal)
    {result : Result} {f : Failure} (hr : x.crew.result? x.current = some result)
    (hg : r.given result = .error f) :
    r.survey (r.verdicts x.series) = (x.given, some f) := by
  have hn : result ≠ .nothing := by
    rintro rfl
    simp [Runner.given] at hg
  have hv := h.verdict_eq hm hr hn
  rw [h.survey_eq hm, List.drop_eq_getElem?_toList_append, hv]
  simp [survey, hg]

/-- **A failure is the one that the survey ends with**, after the same sections. -/
theorem survey_of_failure (h : x.Sound r) (hm : x.crew.cancelled = true → r.context.IsMortal)
    {f : Failure} (hf : x.failure = some f) :
    r.survey (r.verdicts x.series) = (x.given, some f) := by
  obtain ⟨-, result, hr, hg⟩ := h.failure f hf
  exact h.survey_of_error hm hr hg

/-- All sections that there are were given out. -/
theorem survey_of_done (h : x.Sound r) (hm : x.crew.cancelled = true → r.context.IsMortal)
    (hdone : x.series.files[x.given.length]? = none) :
    r.survey (r.verdicts x.series) = (x.given, none) := by
  have hlen : (r.verdicts x.series).length ≤ x.given.length := by
    simpa using List.getElem?_eq_none_iff.1 hdone
  rw [h.survey_eq hm, List.drop_eq_nil_of_le hlen]
  simp [survey]

end Sound

/-! ### Courses that nobody cancels -/

/-- While sections are asked for the flag is down, and afterwards the whole survey was given out. -/
structure IsTrue (r : Runner) (x : Course) : Prop where
  cancelled : x.IsOpen → x.crew.cancelled = false
  survey : ¬ x.IsOpen → r.survey (r.verdicts x.series) = (x.given, x.failure)

/-- A course that finishes is not open. -/
theorem not_isOpen_finish : ¬ x.finish.IsOpen := by
  rcases x.phase_finish with h | h <;> simp [IsOpen, h]

/-- A course that fails is not open. -/
theorem not_isOpen_fail (f : Failure) (x : Course) : ¬ (x.fail f).IsOpen := by
  simp only [fail]
  split
  · simp [IsOpen]
  · exact not_isOpen_finish

@[simp] theorem failure_fail (f : Failure) (x : Course) : (x.fail f).failure = some f := by
  simp only [fail]; split <;> rfl

@[simp] theorem given_fail (f : Failure) (x : Course) : (x.fail f).given = x.given := by
  simp only [fail]; split <;> rfl

@[simp] theorem series_fail (f : Failure) (x : Course) : (x.fail f).series = x.series := by
  simp only [fail]; split <;> rfl

theorem series_ask (r : Runner) (x : Course) : (x.ask r).series = x.series := by
  simp only [ask]; split <;> rfl

theorem series_take (r : Runner) (x : Course) : (x.take r).series = x.series := by
  simp only [take]
  split
  · rfl
  · split <;> simp

@[simp] theorem series_proceed (r : Runner) (x : Course) : (x.proceed r).series = x.series := by
  simp only [proceed]
  split
  · exact series_ask r x
  · exact series_take r x
  all_goals (try split) <;> rfl

@[simp] theorem series_step (r : Runner) (x : Course) (turn : Turn) :
    (x.step r turn).series = x.series := by
  cases turn with
  | taker => exact series_proceed r x
  | crew m =>
    cases m with
    | work i => simp only [step]; split <;> rfl
    | exit | call | cancel => rfl

/-- No turn changes the series of a course. -/
@[simp] theorem series_run (r : Runner) (x : Course) (turns : List Turn) :
    (x.run r turns).series = x.series := by
  refine run_induction (P := fun y => y.series = x.series) (K := fun _ => True)
    ?_ rfl fun _ _ => trivial
  exact fun y turn _ hy => (series_step r y turn).trans hy

/-- Whoever has stopped asking neither gets another section nor another failure. -/
theorem proceed_of_not_isOpen (h : ¬ x.IsOpen) : (x.proceed r).given = x.given ∧
    (x.proceed r).failure = x.failure ∧ ¬ (x.proceed r).IsOpen := by
  have hask (hp : x.phase = .asking) : False := h (.inl hp)
  have hwait (hp : x.phase = .waiting) : False := h (.inr hp)
  simp only [proceed]
  split
  · next hp => exact (hask hp).elim
  · next hp => exact (hwait hp).elim
  all_goals
    (try split) <;> first
      | exact ⟨rfl, rfl, not_isOpen_finish⟩
      | exact ⟨rfl, rfl, by simp [IsOpen, *]⟩

/-- A course that is open has not failed. -/
theorem Sound.failure_eq_none (h : x.Sound r) (ho : x.IsOpen) : x.failure = none := by
  cases hf : x.failure with
  | none => rfl
  | some f => exact absurd ho (h.failure f hf).1

/-- Nothing comes of the task that is waited for only under the raised flag. -/
theorem Sound.cancelled_of_nothing (h : x.Sound r) (hr : x.crew.result? x.current = some .nothing) :
    x.crew.cancelled = true := by
  obtain ⟨t, ht, hres⟩ := Crew.result?_eq_some_iff.1 hr
  exact (h.tasks _ t (Nat.le_add_right _ _) ht).cancelled_of_nothing hres

namespace IsTrue

theorem start {c : Crew} (hc : c.cancelled = false) (s : Series) : (Course.start c s).IsTrue r :=
  ⟨fun _ => hc, fun h => absurd (.inl rfl) h⟩

theorem ask (h : x.IsTrue r) (hs : x.Sound r) (hp : x.phase = .asking) : (x.ask r).IsTrue r := by
  have hc := h.cancelled (.inl hp)
  simp only [Course.ask]
  cases hfile : x.series.files[x.given.length]? with
  | none =>
    refine ⟨fun ho => absurd ho not_isOpen_finish, fun _ => ?_⟩
    have hsurvey := hs.survey_of_done (by simp [hc]) hfile
    rwa [← hs.failure_eq_none (.inl hp)] at hsurvey
  | some file => exact ⟨fun _ => hc, fun ho => absurd (.inr rfl) ho⟩

theorem take (h : x.IsTrue r) (hs : x.Sound r) (hp : x.phase = .waiting) : (x.take r).IsTrue r := by
  have hc := h.cancelled (.inr hp)
  simp only [Course.take]
  cases hr : x.crew.result? x.current with
  | none => exact h
  | some result =>
    cases hg : r.given result with
    | error f =>
      simp only [hg]
      refine ⟨fun ho => absurd ho (not_isOpen_fail f x), fun _ => ?_⟩
      simpa using hs.survey_of_error (by simp [hc]) hr hg
    | ok answer =>
      cases answer with
      | none =>
        -- somebody would have cancelled
        obtain rfl := eq_nothing_of_given hg
        rw [hs.cancelled_of_nothing hr] at hc
        cases hc
      | some s => exact ⟨fun _ => by simpa [hg] using hc,
          fun ho => absurd (by simp [IsOpen, hg]) ho⟩

theorem proceed (h : x.IsTrue r) (hs : x.Sound r) : (x.proceed r).IsTrue r := by
  by_cases ho : x.IsOpen
  · rcases ho with hp | hp <;> simp only [Course.proceed, hp]
    · exact h.ask hs hp
    · exact h.take hs hp
  · obtain ⟨hgiven, hfailure, hclosed⟩ := proceed_of_not_isOpen (r := r) ho
    refine ⟨fun ho' => absurd ho' hclosed, fun _ => ?_⟩
    rw [series_proceed, hgiven, hfailure]
    exact h.survey ho

/-- A move of the crew that leaves the flag alone. -/
theorem of_cancelled_eq (h : x.IsTrue r) {c : Crew} (hc : c.cancelled = x.crew.cancelled) :
    ({ x with crew := c } : Course).IsTrue r :=
  ⟨fun ho => hc.trans (h.cancelled ho), h.survey⟩

theorem step (h : x.IsTrue r) (hs : x.Sound r) {turn : Turn} (hcalm : turn.isCalm = true) :
    (x.step r turn).IsTrue r := by
  cases turn with
  | taker => exact h.proceed hs
  | crew m =>
    cases m with
    | work i =>
      simp only [Course.step]
      split
      · exact h.of_cancelled_eq (by simp)
      · exact h
    | exit i => exact h.of_cancelled_eq (by simp [Crew.step])
    | call | cancel k => cases hcalm

theorem run (h : x.IsTrue r) (hs : x.Sound r) {turns : List Turn}
    (hcalm : ∀ turn ∈ turns, turn.isCalm = true) :
    (x.run r turns).IsTrue r := by
  refine (run_induction (P := fun y => y.Sound r ∧ y.IsTrue r) ?_ ⟨hs, h⟩ hcalm).2
  exact fun y turn hturn hy => ⟨hy.1.step turn, hy.2.step hy.1 hturn⟩

end IsTrue

/-- **A course that nobody cancels gives out the whole survey** of the verdicts, and ends as the
survey does. -/
theorem run_survey {c : Crew} (hc : c.cancelled = false) (s : Series) {turns : List Turn}
    (hcalm : ∀ turn ∈ turns, turn.isCalm = true) (hover : ((start c s).run r turns).phase = .over) :
    r.survey (r.verdicts s) =
      (((start c s).run r turns).given, ((start c s).run r turns).failure) := by
  have h := (IsTrue.start (r := r) hc s).run (sound_start r c s) hcalm
  have hsurvey := h.survey (by simp [IsOpen, hover])
  rwa [series_run] at hsurvey

end Course
end LintRun.Runner
