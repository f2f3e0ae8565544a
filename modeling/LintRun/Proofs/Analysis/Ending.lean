import Mathlib
import LintRun.Proofs.Analysis.Outcome

/-!
# Proofs — Analysis — Endings

How a series has ended that has not failed.

* `Task.NamesFile`: a section that a task has come to is that of its file.
* `Course.IsAccounted`: the invariant. Whoever has stopped asking without a failure has taken the
  last section, or has come to a file that nothing came of. `Course.IsAccounted.run`: every order of
  turns keeps it.
* `Course.IsAccounted.files_given`: what was given out are sections of the first files, in order.
* `Course.IsAccounted.complete_iff`: it is a section for every file, exactly if something came of
  the next one.
-/

namespace LintRun

namespace Analysis

/-- A section that a task has come to is that of its file. -/
def Task.NamesFile (t : Task) : Prop := ∀ s, t.stage.result? = some (.completed s) → s.file = t.file

/-- A task that names its file in its result does so after a step. -/
theorem Task.NamesFile.advance {ctx : Context} {b : Bool} {t : Task} (h : t.NamesFile) :
    (t.advance ctx b).1.NamesFile := by
  intro s hs
  obtain ⟨p, hp⟩ := Stage.result?_eq_some_iff.1 hs
  obtain ⟨file, command, stage⟩ := t
  rw [Task.file_advance]
  cases stage with
  | finished q r => exact h s hs
  | cleared =>
    simp only [Task.advance] at hp
    split at hp <;> cases hp
    rfl
  | concluding q expired =>
    simp only [Task.advance] at hp
    split_ifs at hp <;> cases hp
    rfl
  | queued | tracked q =>
    simp only [Task.advance] at hp
    split_ifs at hp <;> cases hp
  | waiting q expired =>
    obtain ⟨f, -, hstep⟩ | ⟨-, -, -, hstep⟩ | ⟨-, -, hstep⟩ :=
      Task.advance_waiting_cases ctx b file command q expired <;> rw [hstep] at hp <;> cases hp
  | spawned q => cases hp
  | left q how => cases how <;> cases hp

/-- A task that names its file in its result does so after any move. -/
theorem Task.NamesFile.change {ctx : Context} {b : Bool} {t t' : Task} (h : t.NamesFile)
    (hc : Task.Change ctx b t t') : t'.NamesFile := by
  cases hc with
  | rest => exact h
  | advance => exact h.advance
  | exit | kill =>
    intro s hs
    exact h s (by simpa using hs)

end Analysis

namespace Runner

open Analysis

variable {r : Runner}

namespace Course

variable {x : Course}

/-- The invariant of a series that is given out. -/
structure IsAccounted (x : Course) : Prop where
  named : ∀ i t, x.first ≤ i → x.crew.tasks[i]? = some t → t.NamesFile
  /-- Whoever has stopped asking without a failure has taken the last section, or has come to a file
  that nothing came of. -/
  ended : ¬ x.IsOpen → x.failure = none →
    x.series.files[x.given.length]? = none ∨ x.crew.result? x.current = some .nothing

/-- Whoever has stopped asking hires nobody. -/
theorem Sound.proceed_changes (h : x.Sound r) (ho : ¬ x.IsOpen) :
    Crew.Changes r.context x.crew.cancelled x.crew (x.proceed r).crew := by
  simp only [Course.proceed]
  split
  · next hp => exact absurd (.inl hp) ho
  · next hp => exact absurd (.inr hp) ho
  · split
    · exact .refl
    · exact Crew.cancelStep_changes
  · split
    · exact .refl
    · exact .of_tasks_eq rfl
  · split
    · exact .refl
    · exact Crew.cancelStep_changes
  · next j hp =>
    split
    · exact Crew.withdraw_changes (h.withdrawing j hp)
    · exact .refl
  · split <;> exact .refl
  · exact .refl

theorem first_proceed (r : Runner) (x : Course) : (x.proceed r).first = x.first := by
  simp only [proceed, ask, take, fail]
  repeat' (first | rfl | split)

/-- No turn changes which task is the first. -/
theorem first_step (r : Runner) (x : Course) (turn : Turn) : (x.step r turn).first = x.first := by
  cases turn with
  | taker => exact first_proceed r x
  | crew m =>
    cases m with
    | work i => simp only [step]; split <;> rfl
    | exit | call | cancel => rfl

/-- The first task keeps its place. -/
@[simp] theorem first_run (r : Runner) (x : Course) (turns : List Turn) :
    (x.run r turns).first = x.first := by
  refine run_induction (P := fun y => y.first = x.first) (K := fun _ => True)
    ?_ rfl fun _ _ => trivial
  exact fun y turn _ hy => (first_step r y turn).trans hy

theorem first_fail (f : Failure) (x : Course) : (x.fail f).first = x.first := by
  simp only [fail]; split <;> rfl

theorem tasks_fail (f : Failure) (x : Course) : (x.fail f).crew.tasks = x.crew.tasks := by
  simp only [fail]; split <;> rfl

namespace IsAccounted

theorem start (c : Crew) (s : Series) : (Course.start c s).IsAccounted := by
  refine ⟨fun i t hi ht => ?_, fun ho => absurd (.inl rfl) ho⟩
  obtain ⟨j, rfl⟩ := Nat.exists_eq_add_of_le hi
  simp [Course.start] at ht

/-- The crew changes as a move changes it. -/
theorem of_changes {b : Bool} {c' : Crew} (h : x.IsAccounted)
    (hc : Crew.Changes r.context b x.crew c') :
    ({ x with crew := c' } : Course).IsAccounted := by
  refine ⟨fun i t' hi ht' => ?_, fun ho hf => (h.ended ho hf).imp id hc.result?⟩
  obtain ⟨t, ht, hchange⟩ := hc.of_after ht'
  exact (h.named i t hi ht).change hchange

theorem ask (h : x.IsAccounted) : (x.ask r).IsAccounted := by
  simp only [Course.ask]
  cases hfile : x.series.files[x.given.length]? with
  | none => exact ⟨h.named, fun _ _ => .inl hfile⟩
  | some file =>
    refine ⟨fun i t hi ht => ?_, fun ho => absurd (.inr rfl) ho⟩
    rw [Crew.tasks_enlist] at ht
    rcases lt_or_ge i x.crew.tasks.length with hlt | hge
    · exact h.named i t hi (by rwa [List.getElem?_append_left hlt] at ht)
    · rw [List.getElem?_append_right hge] at ht
      -- recruits have come to nothing yet
      have hqueued : t.stage = .queued := by
        have hmem := List.mem_of_getElem? ht
        unfold recruits at hmem
        split_ifs at hmem
        · rw [List.mem_singleton.1 hmem]
          rfl
        · obtain ⟨file', -, rfl⟩ := List.mem_map.1 hmem
          rfl
        · cases hmem
      intro s hs
      simp [hqueued, Stage.result?] at hs

/-- The next task has failed. -/
theorem fail (h : x.IsAccounted) (f : Failure) : (x.fail f).IsAccounted := by
  refine ⟨fun i t hi ht => h.named i t ?_ ?_, fun _ hf => ?_⟩
  · rwa [first_fail] at hi
  · rwa [tasks_fail] at ht
  · rw [failure_fail] at hf
    cases hf

theorem take (h : x.IsAccounted) : (x.take r).IsAccounted := by
  simp only [Course.take]
  cases hr : x.crew.result? x.current with
  | none => exact h
  | some result =>
    cases hg : r.given result with
    | error f =>
      simp only [hg]
      exact h.fail f
    | ok answer =>
      cases answer with
      | none =>
        obtain rfl := eq_nothing_of_given hg
        simp only [hg]
        exact ⟨h.named, fun _ _ => .inr hr⟩
      | some s =>
        simp only [hg]
        exact ⟨h.named, fun ho => absurd (.inl rfl) ho⟩

theorem proceed (h : x.IsAccounted) (hs : x.Sound r) : (x.proceed r).IsAccounted := by
  by_cases ho : x.IsOpen
  · rcases ho with hp | hp <;> simp only [Course.proceed, hp]
    · exact h.ask
    · exact h.take
  · obtain ⟨hgiven, hfailure, -⟩ := proceed_of_not_isOpen (r := r) ho
    have hchanges := h.of_changes (hs.proceed_changes ho)
    refine ⟨fun i t hi ht => hchanges.named i t ?_ ht, fun _ hf => ?_⟩
    · rwa [first_proceed] at hi
    · rw [series_proceed, current, hgiven, first_proceed]
      exact hchanges.ended ho (hfailure.symm.trans hf)

theorem step (h : x.IsAccounted) (hs : x.Sound r) (turn : Turn) : (x.step r turn).IsAccounted := by
  cases turn with
  | taker => exact h.proceed hs
  | crew m =>
    cases m with
    | work i =>
      simp only [Course.step]
      split
      · exact h.of_changes (Crew.work_changes r.context x.crew i)
      · exact h
    | exit i => exact h.of_changes (Crew.step_changes r.context x.crew (.exit i))
    | call => exact h.of_changes (Crew.step_changes r.context x.crew .call)
    | cancel k => exact h.of_changes (Crew.step_changes r.context x.crew (.cancel k))

/-- **Every order of turns keeps it.** -/
theorem run (h : x.IsAccounted) (hs : x.Sound r) (turns : List Turn) :
    (x.run r turns).IsAccounted := by
  refine (run_induction (P := fun y => y.Sound r ∧ y.IsAccounted) (K := fun _ => True) ?_ ⟨hs, h⟩
    fun _ _ => trivial).2
  exact fun y turn _ hy => ⟨hy.1.step turn, hy.2.step hy.1 turn⟩

/-- **What was given out are sections of the first files**, in order. -/
theorem files_given (h : x.IsAccounted) (hs : x.Sound r) :
    x.given.map Section.file = x.series.files.take x.given.length := by
  -- place by place: a section there is what the task of the same place has come to
  refine List.ext_getElem? fun j => ?_
  rw [List.getElem?_map, List.getElem?_take]
  cases hj : x.given[j]? with
  | none => rw [if_neg (Nat.not_lt.2 (List.getElem?_eq_none_iff.1 hj))]; rfl
  | some s =>
    obtain ⟨t, ht, hresult⟩ := Crew.result?_eq_some_iff.1 (hs.given j s hj).1
    obtain ⟨file, hfile, hname, -⟩ := hs.errands j t ht
    rw [if_pos (List.getElem?_eq_some_iff.1 hj).1, hfile, Option.map_some,
      h.named _ t (Nat.le_add_right _ _) ht s hresult, hname]

/-- **A series that has ended without a failure is complete exactly if something came of the file it
has come to.** -/
theorem complete_iff (h : x.IsAccounted) (hs : x.Sound r) (ho : ¬ x.IsOpen)
    (hf : x.failure = none) :
    x.given.length = x.series.files.length ↔ x.crew.result? x.current ≠ some .nothing := by
  constructor
  · intro hlen hnothing
    -- there is no task behind the last file of which nothing could have come
    obtain ⟨t, ht, -⟩ := Crew.result?_eq_some_iff.1 hnothing
    obtain ⟨file, hfile, -⟩ := hs.errands _ t ht
    rw [hlen, List.getElem?_eq_none (le_refl _)] at hfile
    cases hfile
  · intro hsomething
    have hnone := (h.ended ho hf).resolve_right hsomething
    have hle : x.given.length ≤ x.series.files.length := by
      have hfiles := congrArg List.length (h.files_given hs)
      rw [List.length_map, List.length_take] at hfiles
      omega
    exact hle.antisymm (List.getElem?_eq_none_iff.1 hnone)

end IsAccounted
end Course
end Runner
end LintRun
