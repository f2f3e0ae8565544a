import Mathlib
import LintRun.Analysis.Course
import LintRun.Proofs.Analysis.Cancellation

/-!
# Proofs — Analysis — Courses

What every order of turns keeps.

* `Runner.survey`: the sections that results are worth, and the failure that ends them.
* `Runner.verdicts`: what comes of the files of a series while nobody cancels.
* `Course.Sound`: the invariant of a course. What was given out are the results of the first tasks,
  and a failure is that of the next one. `Course.Sound.run`: every order of turns keeps it.
-/

namespace LintRun.Runner

open Analysis

/-! ### Surveys -/

/-- The sections of results in order, up to the first result that ends a series, and the failure it
ends with. -/
def survey (r : Runner) : List Result → List Section × Option Failure
  | [] => ([], none)
  | result :: rest =>
    match r.given result with
    | .ok (some s) => ((s :: (survey r rest).1), (survey r rest).2)
    | .ok none => ([], none)
    | .error f => ([], some f)

/-- What comes of the files of a series while nobody cancels. -/
def verdicts (r : Runner) (s : Series) : List Result :=
  s.files.map fun file => (r.task s file).verdict r.context

variable {r : Runner}

/-- What a result leads to. A section is given out, or its error is reported. -/
theorem given_cases (r : Runner) (result : Result) :
    (result = .nothing ∧ r.given result = .ok none) ∨
    (∃ f, result = .raised f ∧ r.given result = .error (.fault f)) ∨
    ∃ s, result = .completed s ∧
      (r.given result = .ok (some s) ∨ ∃ p, r.given result = .error (.problem p)) := by
  cases result with
  | nothing => exact .inl ⟨rfl, rfl⟩
  | raised f => exact .inr (.inl ⟨f, rfl, rfl⟩)
  | completed s =>
    refine .inr (.inr ⟨s, rfl, ?_⟩)
    simp only [given, checked]
    split
    · split
      · exact .inr ⟨_, rfl⟩
      · exact .inl rfl
    · exact .inl rfl

/-- Only a section is given out for itself. -/
theorem eq_completed_of_given {result : Result} {s : Section} (h : r.given result = .ok (some s)) :
    result = .completed s := by
  obtain ⟨-, hg⟩ | ⟨f, -, hg⟩ | ⟨s', rfl, hg | ⟨p, hg⟩⟩ := given_cases r result
  all_goals
    rw [hg] at h
    cases h
  rfl

/-- Nothing is given out for nothing only. -/
theorem eq_nothing_of_given {result : Result} (h : r.given result = .ok none) :
    result = .nothing := by
  obtain ⟨rfl, -⟩ | ⟨f, -, hg⟩ | ⟨s, -, hg | ⟨p, hg⟩⟩ := given_cases r result
  · rfl
  all_goals
    rw [hg] at h
    cases h

/-- A fault is that of a task. -/
theorem eq_raised_of_given {result : Result} {f : Fault} (h : r.given result = .error (.fault f)) :
    result = .raised f := by
  obtain ⟨-, hg⟩ | ⟨f', rfl, hg⟩ | ⟨s, -, hg | ⟨p, hg⟩⟩ := given_cases r result
  all_goals
    rw [hg] at h
    cases h
  rfl

/-- Only whether the first failure ends a series counts for a survey. -/
theorem survey_congr {r' : Runner} (h : r.failFast = r'.failFast) (results : List Result) :
    r.survey results = r'.survey results := by
  have hgiven (result : Result) : r.given result = r'.given result := by
    cases result <;> simp [given, checked, h]
  induction results with
  | nil => rfl
  | cons result rest ih => simp only [survey, hgiven, ih]

/-- Results that are given out come first in a survey. -/
theorem survey_eq_append {results : List Result} {sections : List Section}
    (h : ∀ (j : Nat) (s : Section), sections[j]? = some s →
      ∃ result, results[j]? = some result ∧ r.given result = .ok (some s)) :
    r.survey results = (sections ++ (r.survey (results.drop sections.length)).1,
      (r.survey (results.drop sections.length)).2) := by
  induction sections generalizing results with
  | nil => simp
  | cons s sections ih =>
    obtain ⟨result, hresult, hgiven⟩ := h 0 s rfl
    cases results with
    | nil => simp at hresult
    | cons result' results =>
      obtain rfl : result' = result := by simpa using hresult
      have hrest := @ih results fun j s' hj => by simpa using h (j + 1) s' (by simpa using hj)
      simp only [survey, hgiven, List.length_cons, List.drop_succ_cons, List.cons_append]
      rw [hrest]

/-! ### The invariant of a course -/

namespace Course

variable {x : Course}

/-- What every turn of some kind keeps, a list of such turns keeps. -/
theorem run_induction {P : Course → Prop} {K : Turn → Prop}
    (hstep : ∀ (x : Course) (turn : Turn), K turn → P x → P (x.step r turn)) (h : P x)
    {turns : List Turn} (hturns : ∀ turn ∈ turns, K turn) : P (x.run r turns) := by
  induction turns generalizing x with
  | nil => exact h
  | cons turn turns ih =>
    obtain ⟨hturn, hrest⟩ := List.forall_mem_cons.1 hturns
    exact ih (hstep x turn hturn h) hrest

/-- Whether sections are still asked for. -/
def IsOpen (x : Course) : Prop := x.phase = .asking ∨ x.phase = .waiting

/-- How many tasks there are. Without parallel jobs a task is hired when its section is asked for,
else all of them are when the first one is. -/
structure IsStaffed (x : Course) : Prop where
  first_le : x.first ≤ x.crew.tasks.length
  asking : x.series.parallel = false → x.phase = .asking → x.crew.tasks.length = x.current
  waiting : x.series.parallel = false → x.phase = .waiting → x.crew.tasks.length = x.current + 1
  parallel : x.series.parallel = true →
    x.crew.tasks.length = x.first + if x.phase = .asking ∧ x.given = [] then 0 else
      x.series.files.length
  inside : x.phase = .waiting → x.given.length < x.series.files.length

/-- The invariant of a course. -/
structure Sound (r : Runner) (x : Course) : Prop where
  staffed : x.IsStaffed
  tasks : x.crew.SoundFrom r.context x.first
  /-- The tasks are those of the files, in order. -/
  errands : ∀ j t, x.crew.tasks[x.first + j]? = some t → ∃ file, x.series.files[j]? = some file ∧
    t.file = file ∧ t.command = r.command x.series.database x.series.checks file
  /-- What was given out are the results of the first tasks. -/
  given : ∀ j s, x.given[j]? = some s →
    x.crew.result? (x.first + j) = some (.completed s) ∧ r.given (.completed s) = .ok (some s)
  /-- A failure is the result of the next one. -/
  failure : ∀ f, x.failure = some f →
    ¬ x.IsOpen ∧ ∃ result, x.crew.result? x.current = some result ∧ r.given result = .error f
  /-- Tasks are withdrawn under the raised flag only. -/
  withdrawing : ∀ j, x.phase = .withdrawing j → x.crew.cancelled = true

@[simp] theorem series_finish : x.finish.series = x.series := rfl
@[simp] theorem crew_finish : x.finish.crew = x.crew := rfl
@[simp] theorem first_finish : x.finish.first = x.first := rfl
@[simp] theorem failure_finish : x.finish.failure = x.failure := rfl

/-- A course that finishes leaves first, or is over. -/
theorem phase_finish : x.finish.phase = .leaving ∨ x.finish.phase = .over := by
  simp only [finish]; split <;> simp

/-- A series that nobody has asked for a section yet. -/
theorem sound_start (r : Runner) (c : Crew) (s : Series) : (start c s).Sound r := by
  refine ⟨⟨le_refl _, fun _ _ => rfl, fun _ h => by simp [start] at h,
    fun _ => by simp [start], by simp [start]⟩,
    fun i t hi ht => ?_, fun j t ht => ?_, by simp [start], by simp [start], by simp [start]⟩
  · obtain ⟨j, rfl⟩ := Nat.exists_eq_add_of_le hi
    simp [start] at ht
  · simp [start] at ht

theorem IsStaffed.hired (h : x.IsStaffed) (hpar : x.series.parallel = true)
    (hp : x.phase ≠ .asking) :
    x.crew.tasks.length = x.first + x.series.files.length := by
  rw [h.parallel hpar, if_neg fun ha => hp ha.1]

/-- With the last section every task was hired. -/
theorem IsStaffed.hired_of_done (h : x.IsStaffed) (hdone : x.series.files[x.given.length]? = none)
    (hpar : x.series.parallel = true) : x.crew.tasks.length = x.first + x.series.files.length := by
  rw [h.parallel hpar]
  split
  · next ha => simp_all
  · rfl

namespace Sound

/-- The crew and its cancellers make a move. -/
theorem of_changes {c' : Crew} (h : x.Sound r)
    (hc : Crew.Changes r.context x.crew.cancelled x.crew c')
    (hb : x.crew.cancelled = true → c'.cancelled = true) :
    ({ x with crew := c' } : Course).Sound r := by
  refine ⟨⟨?_, fun hs hp => ?_, fun hs hp => ?_, fun hs => ?_, h.staffed.inside⟩,
    h.tasks.of_changes hc hb,
    fun j t' ht' => ?_, fun j s hj => ?_, fun f hf => ?_, fun j hj => hb (h.withdrawing j hj)⟩
  · exact h.staffed.first_le.trans_eq hc.length_eq.symm
  · exact hc.length_eq.trans (h.staffed.asking hs hp)
  · exact hc.length_eq.trans (h.staffed.waiting hs hp)
  · exact hc.length_eq.trans (h.staffed.parallel hs)
  · obtain ⟨t, ht, hchange⟩ := hc.of_after ht'
    obtain ⟨file, hfile, hf, hcmd⟩ := h.errands j t ht
    exact ⟨file, hfile, hchange.file.trans hf, hchange.command.trans hcmd⟩
  · obtain ⟨hr, hg⟩ := h.given j s hj
    exact ⟨hc.result? hr, hg⟩
  · obtain ⟨ho, result, hr, hg⟩ := h.failure f hf
    exact ⟨ho, result, hc.result? hr, hg⟩

/-- A move of the crew keeps a course sound. -/
theorem move (h : x.Sound r) (m : Move) :
    ({ x with crew := x.crew.step r.context m } : Course).Sound r :=
  h.of_changes (Crew.step_changes r.context x.crew m) (Crew.cancelled_step m)

theorem call (h : x.Sound r) : ({ x with crew := x.crew.call } : Course).Sound r := h.move .call

theorem cancelStep (h : x.Sound r) (k : Nat) :
    ({ x with crew := x.crew.cancelStep k } : Course).Sound r :=
  h.move (.cancel k)

/-- No section is asked for from now on. -/
theorem leave (h : x.Sound r) {p : Phase} (ha : p ≠ .asking) (hw : p ≠ .waiting)
    (hpar : x.series.parallel = true → x.crew.tasks.length = x.first + x.series.files.length)
    (hd : ∀ j, p = .withdrawing j → x.crew.cancelled = true) :
    ({ x with phase := p } : Course).Sound r := by
  refine ⟨⟨h.staffed.first_le, fun _ hp => absurd hp ha, fun _ hp => absurd hp hw, fun hs => ?_,
    fun hp => absurd hp hw⟩, h.tasks, h.errands, h.given,
    fun f hf => ⟨fun ho => ?_, (h.failure f hf).2⟩, hd⟩
  · rw [if_neg fun hp => ha hp.1]
    exact hpar hs
  · rcases ho with ho | ho
    · exact ha ho
    · exact hw ho

theorem finish (h : x.Sound r)
    (hpar : x.series.parallel = true → x.crew.tasks.length = x.first + x.series.files.length) :
    x.finish.Sound r := by
  refine h.leave ?_ ?_ hpar ?_ <;> split <;> simp

/-- The next task has failed. -/
theorem fail (h : x.Sound r) (hp : x.phase = .waiting) {result : Result} {f : Failure}
    (hr : x.crew.result? x.current = some result) (hg : r.given result = .error f) :
    (x.fail f).Sound r := by
  have hpar (hs : x.series.parallel = true) :
      x.crew.tasks.length = x.first + x.series.files.length :=
    h.staffed.hired hs (by simp [hp])
  have hleft {p : Phase} (ha : p ≠ .asking) (hw : p ≠ .waiting) (hd : ∀ j, p ≠ .withdrawing j) :
      ({ x with failure := some f, phase := p } : Course).Sound r := by
    obtain ⟨hst, ht, he, hgiven, -, hwd⟩ := h.leave ha hw hpar fun j hj => absurd hj (hd j)
    refine ⟨⟨hst.1, hst.2, hst.3, hst.4, hst.5⟩, ht, he, hgiven,
      fun f' hf' => ⟨fun ho => ?_, result, hr, ?_⟩, hwd⟩
    · rcases ho with ho | ho
      · exact ha ho
      · exact hw ho
    · obtain rfl : f = f' := Option.some.inj hf'
      exact hg
  simp only [Course.fail]
  split
  · exact (hleft (p := .handling x.crew.cancellers.length) (by simp) (by simp) (by simp)).call
  · exact hleft (by split <;> simp) (by split <;> simp) (by split <;> simp)

/-- The tasks that are hired when a section is asked for are those of the next files. -/
theorem errand_recruits (h : x.Sound r) (hp : x.phase = .asking) {file : Path}
    (hfile : x.series.files[x.given.length]? = some file) {j : Nat} {t : Task}
    (ht : (x.crew.enlist (x.recruits r file)).tasks[x.first + j]? = some t)
    (hj : x.crew.tasks.length ≤ x.first + j) :
    ∃ file, x.series.files[j]? = some file ∧ t.file = file ∧
      t.command = r.command x.series.database x.series.checks file := by
  rw [Crew.tasks_enlist, List.getElem?_append_right hj] at ht
  cases hs : x.series.parallel with
  | false =>
    have hlen := h.staffed.asking hs hp
    simp only [recruits, hs, Bool.not_false, if_true, List.getElem?_singleton] at ht
    split_ifs at ht with hz
    · obtain rfl : j = x.given.length := by simp only [current] at hlen; omega
      cases ht
      exact ⟨file, hfile, rfl, rfl⟩
  | true =>
    cases hg : x.given with
    | nil =>
      have hlen : x.crew.tasks.length = x.first := by simpa [hp, hg] using h.staffed.parallel hs
      simp only [recruits, hs, hg, hlen, Bool.not_true, Bool.false_eq_true, if_false,
        List.isEmpty_nil, if_true, Nat.add_sub_cancel_left, List.getElem?_map,
        Option.map_eq_some_iff] at ht
      obtain ⟨file', hfile', rfl⟩ := ht
      exact ⟨file', hfile', rfl, rfl⟩
    | cons s rest => simp [recruits, hs, hg] at ht

/-- Asking for a section keeps a course sound. -/
theorem ask (h : x.Sound r) (hp : x.phase = .asking) : (x.ask r).Sound r := by
  simp only [Course.ask]
  cases hfile : x.series.files[x.given.length]? with
  | none => exact h.finish (h.staffed.hired_of_done hfile)
  | some file =>
    have hin : x.given.length < x.series.files.length := (List.getElem?_eq_some_iff.1 hfile).1
    have hqueued : ∀ t ∈ x.recruits r file, t.stage = .queued := by
      unfold recruits
      split_ifs <;> simp [task]
    refine ⟨⟨?_, fun _ h => by simp at h, fun hs _ => ?_, fun hs => ?_, fun _ => hin⟩,
      h.tasks.enlist hqueued,
      fun j t ht => ?_, fun j s hj => ?_, fun f hf => ?_, fun j hj => by simp at hj⟩
    · exact h.staffed.first_le.trans (by simp)
    · have hs : x.series.parallel = false := hs
      simpa [recruits, hs, current] using h.staffed.asking hs hp
    · have hlen := h.staffed.parallel hs
      cases hg : x.given <;> simp_all [recruits]
    · rcases lt_or_ge (x.first + j) x.crew.tasks.length with hlt | hge
      · exact h.errands j t (by rwa [Crew.tasks_enlist, List.getElem?_append_left hlt] at ht)
      · exact h.errand_recruits hp hfile ht hge
    · obtain ⟨hr, hg⟩ := h.given j s hj
      exact ⟨Crew.result?_enlist hr _, hg⟩
    · exact absurd (.inl hp) (h.failure f hf).1

/-- A section is given out. -/
theorem give (h : x.Sound r) (hp : x.phase = .waiting) {s : Section}
    (hr : x.crew.result? x.current = some (.completed s))
    (hg : r.given (.completed s) = .ok (some s)) :
    ({ x with given := x.given ++ [s], phase := .asking } : Course).Sound r := by
  refine ⟨⟨h.staffed.first_le, fun hs _ => ?_, fun _ hp => by simp at hp, fun hs => ?_, by simp⟩,
    h.tasks, h.errands, fun j s' hj => ?_, fun f hf => absurd (.inr hp) (h.failure f hf).1, by simp⟩
  · simpa [current, Nat.add_assoc] using h.staffed.waiting hs hp
  · simpa using h.staffed.hired hs (by simp [hp])
  · rw [List.getElem?_append] at hj
    split at hj
    · exact h.given j s' hj
    · next hge =>
      simp only [List.getElem?_singleton] at hj
      split_ifs at hj with hz
      obtain rfl : j = x.given.length := by omega
      cases hj
      exact ⟨hr, hg⟩

/-- Taking a section keeps a course sound. -/
theorem take (h : x.Sound r) (hp : x.phase = .waiting) : (x.take r).Sound r := by
  simp only [Course.take]
  cases hr : x.crew.result? x.current with
  | none => exact h
  | some result =>
    have hpar (hs : x.series.parallel = true) :
        x.crew.tasks.length = x.first + x.series.files.length :=
      h.staffed.hired hs (by simp [hp])
    cases hg : r.given result with
    | error f => simpa only [hg] using h.fail hp hr hg
    | ok answer =>
      cases answer with
      | none => simpa only [hg] using h.finish hpar
      | some s =>
        obtain rfl := eq_completed_of_given hg
        simpa only [hg] using h.give hp hr hg

theorem proceed (h : x.Sound r) : (x.proceed r).Sound r := by
  have hpar (hp : x.phase ≠ .asking) (hs : x.series.parallel = true) :
      x.crew.tasks.length = x.first + x.series.files.length := h.staffed.hired hs hp
  simp only [Course.proceed]
  split
  · next hp => exact h.ask hp
  · next hp => exact h.take hp
  · next k hp =>
    split
    · exact h.finish (hpar (by simp [hp]))
    · exact h.cancelStep k
  · next hp =>
    split
    · exact h.leave (by simp) (by simp) (hpar (by simp [hp])) (by simp)
    · exact (h.leave (p := .stopping x.crew.cancellers.length) (by simp) (by simp)
        (hpar (by simp [hp]))
        (by simp)).call
  · next k hp =>
    split
    · next hk =>
      exact h.leave (by simp) (by simp) (hpar (by simp [hp])) fun _ _ =>
        Crew.cancelled_of_mem (Crew.mem_of_hasCancelled hk) rfl
    · exact h.cancelStep k
  · next j hp =>
    have hflag := h.withdrawing j hp
    split
    · exact (h.leave (p := .withdrawing (j + 1)) (by simp) (by simp) (hpar (by simp [hp]))
        fun _ _ => hflag).of_changes
        (Crew.withdraw_changes hflag) (by simp)
    · exact h.leave (by simp) (by simp) (hpar (by simp [hp])) (by simp)
  · next hp =>
    split
    · exact h.leave (by simp) (by simp) (hpar (by simp [hp])) (by simp)
    · exact h
  · exact h

/-- **Every turn keeps the invariant.** -/
theorem step (h : x.Sound r) (turn : Turn) : (x.step r turn).Sound r := by
  cases turn with
  | taker => exact h.proceed
  | crew m =>
    cases m with
    | work i =>
      simp only [Course.step]
      split
      · exact h.move (.work i)
      · exact h
    | exit i => exact h.move (.exit i)
    | call => exact h.move .call
    | cancel k => exact h.move (.cancel k)

/-- Turns keep a course sound. -/
theorem run (h : x.Sound r) (turns : List Turn) : (x.run r turns).Sound r :=
  run_induction (K := fun _ => True) (fun _ turn _ h => h.step turn) h fun _ _ => trivial

end Sound
end Course
end LintRun.Runner
