import Mathlib
import LintRun.Analysis.Course
import LintRun.Proofs.Analysis.Drive
import LintRun.Proofs.Analysis.Outcome

/-!
# Proofs — Analysis — Series

Taking all sections at once, as a program does it, is one of the courses of a series: the tasks go
on in the order of the files, and only the processes provoke cancellations.

* `Course.Leads`: turns lead from one course to another, and none of them cancels if no process
  provokes it.
* `Course.IsAtWork`: a task that may go on until it is finished, whatever its process provokes.
* `Course.leads_take`: a section that is there is taken, with everything that its end entails.
* `Course.leads_next`, `Course.leads_all`: what `Runner.next` and `Runner.all` compute is a course.
-/

namespace LintRun.Runner

open Analysis

namespace Course

variable {r : Runner} {x x' y : Course} {i : Nat}

/-- Turns lead from one course to another, and none of them cancels if no process provokes it. -/
def Leads (r : Runner) (x x' : Course) : Prop :=
  ∃ turns : List Turn, x.run r turns = x' ∧
    (r.context.IsSteady → ∀ turn ∈ turns, turn.isCalm = true)

theorem run_append (r : Runner) (x : Course) (turns turns' : List Turn) :
    x.run r (turns ++ turns') = (x.run r turns).run r turns' :=
  List.foldl_append

namespace Leads

theorem refl (r : Runner) (x : Course) : x.Leads r x := ⟨[], rfl, by simp⟩

theorem trans (h : x.Leads r y) (h' : y.Leads r x') : x.Leads r x' := by
  obtain ⟨before, hbefore, hcalm⟩ := h
  obtain ⟨after, hafter, hcalm'⟩ := h'
  refine ⟨before ++ after, by rw [run_append, hbefore, hafter], fun hs turn hturn => ?_⟩
  exact (List.mem_append.1 hturn).elim (hcalm hs turn) (hcalm' hs turn)

/-- A turn of the one who takes the sections. -/
theorem taker (h : x.proceed r = x') : x.Leads r x' := ⟨[.taker], h, by simp [Turn.isCalm]⟩

theorem sound (h : x.Leads r x') (hs : x.Sound r) : x'.Sound r := by
  obtain ⟨turns, rfl, -⟩ := h
  exact hs.run turns

end Leads

/-! ### Driving tasks -/

/-- A task that may go on until it is finished: the one that is waited for or, among parallel ones,
one that has begun, or the first that has not while none is at work. -/
def IsAtWork (x : Course) (i : Nat) : Prop :=
  if x.series.parallel then
    x.first ≤ i ∧ (x.crew.ranks[i]? ≠ some 8 ∨
      (∀ n ∈ (x.crew.ranks.drop x.first).take (i - x.first), n ≠ 8) ∧
        ∀ n ∈ x.crew.ranks.drop x.first, n = 0 ∨ n = 8)
  else x.phase = .waiting ∧ i = x.current

theorem rank_of_mem_tasks {t : Task} (h : t ∈ x.tasks) :
    t.stage.rank ∈ x.crew.ranks.drop x.first := by
  rw [Crew.ranks, ← List.map_drop]
  exact List.mem_map_of_mem h

theorem mayWork_of_isAtWork (h : x.IsAtWork i) (hj : x.series.parallel = true → 1 ≤ r.jobs) :
    x.mayWork r i = true := by
  cases hpar : x.series.parallel with
  | false => simpa [mayWork, IsAtWork, hpar] using h
  | true =>
    simp only [IsAtWork, hpar, if_true] at h
    obtain ⟨hi, h⟩ := h
    simp only [mayWork, hpar, if_true, Bool.and_eq_true, Bool.or_eq_true, List.all_eq_true,
      decide_eq_true_eq]
    refine ⟨hi, h.imp (fun hrank hs => ?_) fun ⟨hbefore, hidle⟩ => ⟨fun t ht hq => ?_, ?_⟩⟩
    · obtain ⟨t, ht, hq⟩ := Crew.stage?_eq_some_iff.1 hs
      exact hrank (by rw [Crew.ranks_getElem? ht, hq]; rfl)
    · refine hbefore t.stage.rank ?_ (Stage.rank_eq_eight_iff.2 hq)
      rw [Crew.ranks, ← List.map_drop, ← List.map_take]
      exact List.mem_map_of_mem ht
    · have hzero : x.busy = 0 := by
        refine List.countP_eq_zero.2 fun t ht hb => ?_
        obtain ⟨hne, hne'⟩ := Stage.isBusy_iff.1 hb
        exact (hidle _ (rank_of_mem_tasks ht)).elim hne' hne
      rw [hzero]
      exact hj hpar

/-- A move that brings no other task on leaves a task at work. -/
theorem IsAtWork.move (h : x.IsAtWork i) {m : Move} (hm : ∀ j, m = .work j → j = i) :
    ({ x with crew := x.crew.step r.context m } : Course).IsAtWork i := by
  cases hpar : x.series.parallel with
  | false =>
    simp only [IsAtWork, hpar, Bool.false_eq_true, if_false] at h ⊢
    exact h
  | true =>
    simp only [IsAtWork, hpar, if_true] at h ⊢
    refine ⟨h.1, ?_⟩
    cases m with
    | work j =>
      obtain rfl := hm j rfl
      exact .inl Crew.begun_work
    | exit j => simpa [Crew.step] using h.2
    | call => simpa [Crew.step] using h.2
    | cancel k => simpa [Crew.step] using h.2

/-- The moves that drive a task lead from a course to another. -/
theorem leads_moves (h : x.IsAtWork i) (hj : x.series.parallel = true → 1 ≤ r.jobs)
    {moves : List Move} (hm : ∀ m ∈ moves, m.Drives r.context i) :
    x.Leads r { x with crew := x.crew.run r.context moves } := by
  induction moves generalizing x with
  | nil => exact .refl r x
  | cons m moves ih =>
    obtain ⟨⟨hwork, hcalm⟩, hrest⟩ := List.forall_mem_cons.1 hm
    have hstep : x.step r (.crew m) = { x with crew := x.crew.step r.context m } := by
      cases m with
      | work j =>
        obtain rfl := hwork j rfl
        simp only [step, mayWork_of_isAtWork h hj, if_true, Crew.step]
      | exit | call | cancel => rfl
    refine .trans ⟨[.crew m], hstep, fun hs turn hturn => ?_⟩ (ih (h.move hwork) hj hrest)
    rw [List.mem_singleton.1 hturn, hcalm hs]
    rfl

/-- **A task that is driven is led to its end by turns.** -/
theorem leads_drive (hs : x.Sound r) (h : x.IsAtWork i) (hi : x.first ≤ i)
    (hj : x.series.parallel = true → 1 ≤ r.jobs) :
    x.Leads r { x with crew := x.crew.drive r.context i } := by
  obtain ⟨moves, hmoves, hdrives⟩ := Crew.drive_drives hs.tasks hi
  rw [← hmoves]
  exact leads_moves h hj hdrives

/-- Parallel tasks that are driven one after the other, in order. -/
theorem leads_driveAll (hs : x.Sound r) (hpar : x.series.parallel = true) (hj : 1 ≤ r.jobs)
    {j n : Nat} (hranks : x.crew.ranks.drop x.first = List.replicate j 0 ++ List.replicate n 8) :
    x.Leads r { x with crew := driveAll r.context (List.range' (x.first + j) n) x.crew } ∧
      (driveAll r.context (List.range' (x.first + j) n) x.crew).ranks.drop x.first =
        List.replicate (j + n) 0 := by
  induction n generalizing x j with
  | zero => exact ⟨.refl r x, by simpa [driveAll] using hranks⟩
  | succ n ih =>
    have hlen : x.crew.ranks.length - x.first = j + (n + 1) := by
      simpa using congrArg List.length hranks
    have hi : x.first + j < x.crew.tasks.length := by
      rw [Crew.length_ranks] at hlen
      omega
    have hwork : x.IsAtWork (x.first + j) := by
      simp only [IsAtWork, hpar, if_true, Nat.add_sub_cancel_left, hranks]
      refine ⟨Nat.le_add_right _ _, .inr ⟨fun m hm => ?_, fun m hm => ?_⟩⟩
      · rw [List.take_left' (by simp)] at hm
        simp [(List.mem_replicate.1 hm).2]
      · rcases List.mem_append.1 hm with hm | hm <;> simp [(List.mem_replicate.1 hm).2]
    have hdrive := leads_drive hs hwork (Nat.le_add_right _ _) fun _ => hj
    have hranks' : (x.crew.drive r.context (x.first + j)).ranks.drop x.first =
        List.replicate (j + 1) 0 ++ List.replicate n 8 := by
      rw [Crew.ranks_drive hi, List.drop_set, if_neg (by omega), Nat.add_sub_cancel_left, hranks,
        List.set_append_right _ _ (by simp), List.length_replicate, Nat.sub_self,
        List.replicate_succ, List.set_cons_zero, List.replicate_succ' (n := j), List.append_assoc,
        List.singleton_append]
    rw [List.range'_succ, driveAll]
    generalize x.crew.drive r.context (x.first + j) = c at hdrive hranks' ⊢
    obtain ⟨hleads, hend⟩ :=
      ih (x := { x with crew := c }) (j := j + 1) (hdrive.sound hs) hpar hranks'
    exact ⟨hdrive.trans hleads, by rwa [Nat.add_right_comm] at hend⟩

/-! ### Taking a section -/

/-- Every task of the series is finished, if all of them have begun at once. -/
def IsDone (x : Course) : Prop := x.series.parallel = true → ∀ n ∈ x.crew.ranks.drop x.first, n = 0

theorem isSettled_of_ranks {c : Crew} {first : Nat} (h : ∀ n ∈ c.ranks.drop first, n = 0)
    (count : Nat) :
    Runner.isSettled c first count = true := by
  refine List.all_eq_true.2 fun t ht => Stage.rank_eq_zero_iff.1 (h _ ?_)
  rw [Crew.ranks, ← List.map_drop]
  exact List.mem_map_of_mem (List.mem_of_mem_take ht)

/-- Nobody is left to wait for. -/
theorem leads_finish (hd : x.IsDone) : x.finish.Leads r { x with phase := .over } := by
  cases hpar : x.series.parallel with
  | false =>
    have hfinish : x.finish = { x with phase := .over } := by simp [finish, hpar]
    rw [hfinish]
    exact .refl r _
  | true =>
    have hfinish : x.finish = { x with phase := .leaving } := by simp [finish, hpar]
    rw [hfinish]
    refine .taker ?_
    have hsettled : ({ x with phase := .leaving } : Course).isSettled = true :=
      isSettled_of_ranks (hd hpar) x.series.files.length
    simp only [proceed, hsettled, if_true]

/-- Whoever handles an interruption lets the canceller do all it does. -/
theorem leads_handling {k : Nat} {c c' : Crew} (h : Crew.Cancels k c c') (hc : x.crew = c)
    (hp : x.phase = .handling k) : x.Leads r ({ x with crew := c' } : Course).finish := by
  induction h generalizing x with
  | done hk =>
    subst hc
    have hstep : x.proceed r = x.finish := by simp only [proceed, hp, hk, if_true]
    exact .taker hstep
  | more hk _ ih =>
    subst hc
    have hstep : x.proceed r = { x with crew := x.crew.cancelStep k } := by
      simp only [proceed, hp, hk, Bool.false_eq_true, if_false]
    exact (Leads.taker hstep).trans (ih rfl hp)

/-- A course after an answer, with the crew that the answer leaves behind. -/
def after (x : Course) (c : Crew) : Outcome (Option Section) → Course
  | .ok (some s) => { x with crew := c, given := x.given ++ [s], phase := .asking }
  | .ok none => { x with crew := c, phase := .over }
  | .error f => { x with crew := c, failure := some f, phase := .over }

theorem isInterruption_error (f : Failure) :
    isInterruption (.error f : Outcome (Option Section)) =
      isInterruption (.error f : Outcome Unit) := by
  unfold isInterruption
  split <;> split <;> simp_all

/-- A failure that is an interruption cancels before the series is over. -/
theorem leads_fail (hd : x.IsDone) (f : Failure) :
    (x.fail f).Leads r (x.after (onInterruption x.crew (.error f)) (.error f)) := by
  simp only [fail, after, onInterruption]
  cases hf : isInterruption (.error f : Outcome Unit) with
  | false =>
    rw [← isInterruption_error] at hf
    simp only [hf, Bool.false_eq_true, if_false]
    exact leads_finish (x := { x with failure := some f }) hd
  | true =>
    rw [← isInterruption_error] at hf
    simp only [hf, if_true]
    refine (leads_handling x.crew.cancels_cancel rfl rfl).trans ?_
    exact leads_finish (x := { x with crew := x.crew.cancel, failure := some f })
      (by simpa [IsDone] using hd)

/-- **A section that is there is taken**, with everything that its end entails. -/
theorem leads_take (hd : x.IsDone) (hp : x.phase = .waiting) {result : Result}
    (hr : x.crew.result? x.current = some result) :
    x.Leads r (x.after (onInterruption x.crew (r.given result)) (r.given result)) := by
  have htake : x.Leads r (x.take r) := .taker (by simp only [proceed, hp])
  refine htake.trans ?_
  simp only [take, hr]
  cases r.given result with
  | error f => exact leads_fail hd f
  | ok answer =>
    cases answer with
    | none => exact leads_finish hd
    | some s => exact .refl r _

/-! ### The next section -/

/-- The series that is left, as the one who takes its sections keeps it. -/
def rest (x : Course) : Series :=
  { x.series with
    files := x.series.files.drop x.given.length
    place := if x.series.parallel && !x.given.isEmpty then some x.current else none }

/-- The crew when the next section is there. -/
def staff (r : Runner) (x : Course) (file : Path) : Crew :=
  let c := x.crew.enlist (x.recruits r file)
  if !x.series.parallel then c.drive r.context x.current
  else if x.given.isEmpty then driveAll r.context (List.range' x.first x.series.files.length) c
  else c

/-- Nobody has been asked for a section, or every task that has begun is finished. -/
def IsIdle (x : Course) : Prop := x.phase = .asking ∧ (x.given ≠ [] → x.IsDone)

theorem rest_start {s : Series} (hs : s.place = none) (c : Crew) : (start c s).rest = s := by
  simp [rest, start, hs.symm]

theorem result?_of_rank {c : Crew} (h : c.ranks[i]? = some 0) :
    ∃ result, c.result? i = some result := by
  obtain ⟨t, ht, hrank⟩ : ∃ t, c.tasks[i]? = some t ∧ t.stage.rank = 0 := by
    simpa [Crew.ranks] using h
  obtain ⟨result, hresult⟩ := Option.isSome_iff_exists.1 (Stage.rank_eq_zero_iff.1 hrank)
  exact ⟨result, Crew.result?_eq_some_iff.2 ⟨t, ht, hresult⟩⟩

/-- The task whose section is next is finished. -/
theorem IsDone.result? (h : x.IsDone) (hpar : x.series.parallel = true)
    (hlt : x.current < x.crew.tasks.length) :
    ∃ result, x.crew.result? x.current = some result := by
  have hget := List.getElem?_eq_getElem (Nat.lt_of_lt_of_eq hlt x.crew.length_ranks.symm)
  refine result?_of_rank (hget.trans (congrArg some (h hpar _ ?_)))
  exact List.mem_of_getElem? (i := x.given.length) (by simp [current])

/-- Without parallel jobs the task of the next file is driven. -/
theorem leads_staff_alone (hs : x.Sound r) (hpar : x.series.parallel = false)
    (hp : x.phase = .waiting) :
    x.Leads r { x with crew := x.crew.drive r.context x.current } ∧
      ∃ result, (x.crew.drive r.context x.current).result? x.current = some result := by
  have hlt : x.current < x.crew.tasks.length := by simp [hs.staffed.waiting hpar hp]
  have hwork : x.IsAtWork x.current := by simp [IsAtWork, hpar, hp]
  refine ⟨leads_drive hs hwork (Nat.le_add_right _ _) (by simp [hpar]), result?_of_rank ?_⟩
  rw [Crew.ranks_drive hlt, List.getElem?_set_self (by rwa [Crew.length_ranks])]

/-- All parallel tasks are driven when the first section is asked for. -/
theorem leads_staff_first (hs : x.Sound r) (hpar : x.series.parallel = true) (hj : 1 ≤ r.jobs)
    (hranks : x.crew.ranks.drop x.first = List.replicate x.series.files.length 8) :
    let c := driveAll r.context (List.range' x.first x.series.files.length) x.crew
    x.Leads r { x with crew := c } ∧ ({ x with crew := c } : Course).IsDone := by
  obtain ⟨hleads, hend⟩ := leads_driveAll (j := 0) hs hpar hj (by simpa using hranks)
  rw [Nat.add_zero] at hleads hend
  refine ⟨hleads, fun _ n hn => ?_⟩
  rw [hend] at hn
  exact (List.mem_replicate.1 hn).2

/-- **The next section is worked for by turns**, and then it is there. -/
theorem leads_staff (hs : x.Sound r) (hx : x.IsIdle) (hj : x.series.parallel = true → 1 ≤ r.jobs)
    {file : Path} (hfile : x.series.files[x.given.length]? = some file) :
    x.Leads r { x with crew := x.staff r file, phase := .waiting } ∧
      ({ x with crew := x.staff r file, phase := .waiting } : Course).IsDone ∧
      ∃ result, (x.staff r file).result? x.current = some result := by
  obtain ⟨hp, hdone⟩ := hx
  set y : Course := { x with crew := x.crew.enlist (x.recruits r file), phase := .waiting } with hy
  have hask : x.Leads r y := .taker (by simp only [proceed, hp, ask, hfile, hy])
  have hsound := hask.sound hs
  have hin : x.given.length < x.series.files.length := hsound.staffed.inside rfl
  cases hpar : x.series.parallel with
  | false =>
    have hstaff : x.staff r file = y.crew.drive r.context y.current := by
      simp [staff, hpar, hy, current]
    obtain ⟨hdrive, hresult⟩ := leads_staff_alone hsound hpar rfl
    rw [hstaff]
    exact ⟨hask.trans hdrive, fun h => by simp [hpar] at h, hresult⟩
  | true =>
    have hlen : y.crew.tasks.length = x.first + x.series.files.length :=
      hsound.staffed.hired hpar (by simp [hy])
    cases hg : x.given.isEmpty with
    | true =>
      have hstaff : x.staff r file =
          driveAll r.context (List.range' y.first y.series.files.length) y.crew := by
        simp [staff, hpar, hg, hy]
      have hranks : y.crew.ranks.drop y.first = List.replicate y.series.files.length 8 := by
        have hfirst : x.crew.ranks.length = x.first := by
          simpa [hp, List.isEmpty_iff.1 hg] using hs.staffed.parallel hpar
        have hnew : (fun t : Task => t.stage.rank) ∘ r.task x.series = fun _ => 8 := rfl
        simp [hy, Crew.ranks_enlist, List.drop_left' hfirst, recruits, hpar, hg, hnew]
      obtain ⟨hdrive, hall⟩ := leads_staff_first hsound hpar (hj hpar) hranks
      have hlen' := ((hask.trans hdrive).sound hs).staffed.hired hpar (by simp [hy])
      rw [hstaff]
      refine ⟨hask.trans hdrive, hall, hall.result? hpar ?_⟩
      rw [hlen']
      exact Nat.add_lt_add_left hin _
    | false =>
      have hstaff : x.staff r file = y.crew := by simp [staff, hpar, hg, hy]
      have hall : y.IsDone := by
        simpa [IsDone, hy, recruits, hpar, hg, Crew.ranks_enlist] using hdone (by simpa using hg)
      rw [hstaff]
      refine ⟨hask, hall, hall.result? hpar ?_⟩
      rw [hlen]
      exact Nat.add_lt_add_left hin _

theorem rest_files {file : Path} (hfile : x.series.files[x.given.length]? = some file) :
    x.rest.files = file :: x.series.files.drop (x.given.length + 1) := by
  obtain ⟨hlt, rfl⟩ := List.getElem?_eq_some_iff.1 hfile
  exact List.drop_eq_getElem_cons hlt

/-- The place of the first task that is left, when the next section is worked for. -/
theorem begin_rest (hs : x.Sound r) (hx : x.IsIdle) (hpar : x.series.parallel = true)
    (file : Path) :
    r.enter x.crew x.rest = (x.staff r file, x.current) := by
  cases hg : x.given.isEmpty with
  | true =>
    have hnil : x.given = [] := List.isEmpty_iff.1 hg
    have hfirst : x.crew.tasks.length = x.first := by
      simpa [hx.1, hnil] using hs.staffed.parallel hpar
    simp [enter, rest, staff, recruits, hpar, hnil, hfirst, current, List.range'_eq_map_range]
    rfl
  | false => simp [enter, rest, staff, recruits, hpar, hg, Crew.enlist]

@[simp] theorem ranks_onInterruption (c : Crew) (answer : Outcome (Option Section)) :
    (onInterruption c answer).ranks = c.ranks := by
  simp only [onInterruption]
  split <;> simp

/-- Whoever leaves a series whose tasks are finished cancels nothing. -/
theorem IsDone.leave (h : x.IsDone) (hpar : x.series.parallel = true)
    (answer : Outcome (Option Section)) (count : Nat) :
    Runner.leave (onInterruption x.crew answer) x.current count = onInterruption x.crew answer := by
  refine if_pos (isSettled_of_ranks (fun n hn => h hpar n ?_) count)
  rw [ranks_onInterruption, current, ← List.drop_drop] at hn
  exact List.mem_of_mem_drop hn

/-- **The next section is that of the task that was worked for.** -/
theorem next_eq (hs : x.Sound r) (hx : x.IsIdle) (hj : x.series.parallel = true → 1 ≤ r.jobs)
    {file : Path} (hfile : x.series.files[x.given.length]? = some file)
    {answer : Outcome (Option Section)}
    (hanswer : r.given ((x.staff r file).result x.current) = answer) :
    (r.next x.crew x.rest).1 = answer ∧
    (r.next x.crew x.rest).2.1 = onInterruption (x.staff r file) answer ∧
      ∀ s, answer = .ok (some s) →
        (r.next x.crew x.rest).2.2 = ({ x with given := x.given ++ [s] } : Course).rest := by
  have hpar' : x.rest.parallel = x.series.parallel := rfl
  unfold next
  simp only [rest_files hfile]
  cases hpar : x.series.parallel with
  | false =>
    have hstaff : (x.crew.enlist [r.task x.rest file]).drive r.context x.current =
        x.staff r file := by
      simp [staff, recruits, hpar]
      rfl
    simp only [hpar', hpar, hs.staffed.asking hpar hx.1, Bool.false_eq_true, if_false, hstaff,
      hanswer]
    rcases answer with f | (_ | s)
    · simp [ends]
    · simp [ends]
    · simp [ends, onInterruption, isInterruption, rest, hpar]
  | true =>
    have hleave (count : Nat) :
      Runner.leave (onInterruption (x.staff r file) answer) x.current count =
        onInterruption (x.staff r file) answer :=
      (leads_staff hs hx hj hfile).2.1.leave hpar answer count
    simp only [hpar', hpar, if_true, begin_rest hs hx hpar file, hanswer]
    rcases answer with f | (_ | s)
    · simp [ends, hleave]
    · simp [ends, hleave]
    · simp [ends, onInterruption, isInterruption, rest, hpar, current, Nat.add_assoc]

/-- **What `Runner.next` computes is a course.** -/
theorem leads_next (hs : x.Sound r) (hx : x.IsIdle) (hj : x.series.parallel = true → 1 ≤ r.jobs) :
    x.Leads r (x.after (r.next x.crew x.rest).2.1 (r.next x.crew x.rest).1) ∧
      ∀ s, (r.next x.crew x.rest).1 = .ok (some s) →
        let y := x.after (r.next x.crew x.rest).2.1 (.ok (some s))
        (r.next x.crew x.rest).2.2 = y.rest ∧ y.IsIdle := by
  cases hfile : x.series.files[x.given.length]? with
  | none =>
    have hrest : x.rest.files = [] := List.drop_eq_nil_of_le (List.getElem?_eq_none_iff.1 hfile)
    have hnext : r.next x.crew x.rest = (.ok none, x.crew, x.rest.over) := by
      simp only [next, hrest]
    have hfinish : x.proceed r = x.finish := by simp only [proceed, hx.1, ask, hfile]
    rw [hnext]
    refine ⟨(Leads.taker hfinish).trans (leads_finish ?_), by simp⟩
    by_cases hg : x.given = []
    · -- nobody was asked for a section, for there was no file
      intro hpar
      have hlen : x.crew.ranks.length = x.first := by
        simpa [hx.1, hg] using hs.staffed.parallel hpar
      simp [List.drop_eq_nil_of_le hlen.le]
    · exact hx.2 hg
  | some file =>
    obtain ⟨hleads, hdone, result, hresult⟩ := leads_staff hs hx hj hfile
    have hanswer : r.given ((x.staff r file).result x.current) = r.given result := by
      simp [Crew.result, hresult]
    obtain ⟨h₁, h₂, h₃⟩ := next_eq hs hx hj hfile hanswer
    rw [h₁, h₂]
    refine ⟨hleads.trans (leads_take hdone rfl hresult), fun s hg => ⟨h₃ s hg, rfl, fun _ => ?_⟩⟩
    simpa only [IsDone, after, ranks_onInterruption] using hdone

/-- The sections that are left, the failure, and the crew, as a course. -/
theorem leads_allFrom {n : Nat} (hs : x.Sound r) (hx : x.IsIdle)
    (hj : x.series.parallel = true → 1 ≤ r.jobs) (hn : x.rest.files.length < n) :
    let all := r.allFrom n x.crew x.rest
    x.Leads r { x with
      crew := all.2.2.1, given := x.given ++ all.1, failure := all.2.1, phase := .over } := by
  induction n generalizing x with
  | zero => exact absurd hn (Nat.not_lt_zero _)
  | succ n ih =>
    obtain ⟨hleads, hnext⟩ := leads_next hs hx hj
    have hopen : x.failure = none := hs.failure_eq_none (.inl hx.1)
    rcases hanswer : r.next x.crew x.rest with ⟨f | (_ | s), c, left⟩
    · simpa [allFrom, hanswer, after] using hleads
    · simpa [allFrom, hanswer, after, hopen] using hleads
    · have hfiles : x.rest.files ≠ [] := fun h => by simp [next, h] at hanswer
      rw [hanswer] at hleads hnext
      obtain ⟨hleft, hidle⟩ :
          left = (x.after c (.ok (some s))).rest ∧ (x.after c (.ok (some s))).IsIdle := hnext s rfl
      have hlt : (x.after c (.ok (some s))).rest.files.length < n := by
        have hpos := List.length_pos_iff.2 hfiles
        simp only [rest, after, List.length_drop, List.length_append,
          List.length_singleton] at hpos hn ⊢
        omega
      have hrec := ih (hleads.sound hs) hidle hj hlt
      refine hleads.trans ?_
      simp only [allFrom, hanswer]
      rw [hleft]
      simpa [after] using hrec

/-- **What `Runner.all` computes is a course.** -/
theorem leads_all {s : Series} (hplace : s.place = none) (hj : s.parallel = true → 1 ≤ r.jobs)
    (c : Crew) :
    let all := r.all c s
    (start c s).Leads r { start c s with
      crew := all.2.2.1, given := all.1, failure := all.2.1, phase := .over } := by
  have h := leads_allFrom (n := s.files.length + 1) (sound_start r c s) ⟨rfl,
    fun hg => absurd rfl hg⟩ hj
    (by rw [rest_start hplace]; exact Nat.lt_succ_self _)
  rw [rest_start hplace] at h
  simpa [start, all] using h

end Course
end LintRun.Runner
