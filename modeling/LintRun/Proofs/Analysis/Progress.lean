import Mathlib
import LintRun.Proofs.Analysis.Outcome

/-!
# Proofs — Analysis — Progress

A course that is not over can always go on, and it comes to its end.

* `Course.distance`: how far a course is from its end. Phases weigh most, then what is left in the
  phase, then the steps that are left to the tasks.
* `Course.exists_mayWork`: while a parallel series has unfinished tasks, one of them may take its
  next step.
* `Course.exists_nearer`: some turn that cancels nothing brings a course nearer to its end.
* `Course.exists_over`: such turns bring it to its end.
-/

namespace LintRun.Analysis

/-! ### What is left to tasks and cancellers -/

/-- The number of steps that are left to a canceller in a crew of `n` tasks. -/
def Canceller.left (n : Nat) : Canceller → Nat
  | .idle => n + 2
  | .flagged => n + 1
  | .killing targets => targets.length

namespace Crew

variable {ctx : Context} {c : Crew} {i k : Nat} {t : Task}

/-- The number of steps that are at most left to the tasks. -/
def labour (c : Crew) : Nat := (c.tasks.map fun t => t.stage.rank).sum

/-- The number of steps that are left to a canceller, by its position. -/
def left (c : Crew) (k : Nat) : Nat := (c.cancellers[k]?.map (Canceller.left c.tasks.length)).getD 0

/-- A task with fewer steps left lowers the labour of the crew. -/
theorem labour_setTask_lt {t' : Task} (ht : c.tasks[i]? = some t)
    (hlt : t'.stage.rank < t.stage.rank) :
    (c.setTask i t').labour < c.labour := by
  obtain ⟨tasks, cancellers, history⟩ := c
  simp only [labour, setTask] at ht ⊢
  induction tasks generalizing i with
  | nil => simp at ht
  | cons u tasks ih =>
    cases i with
    | zero =>
      obtain rfl : u = t := by simpa using ht
      simpa using hlt
    | succ i => simpa using ih (by simpa using ht)

/-- A task that is not finished works the labour off. -/
theorem labour_work_lt (ht : c.tasks[i]? = some t) (hf : t.stage.isFinished = false) :
    (c.work ctx i).labour < c.labour := by
  simp only [work, ht]
  exact labour_setTask_lt ht (Task.rank_advance hf)

/-- There are no more processes to kill than tasks. -/
theorem length_tracked_le (c : Crew) : c.tracked.length ≤ c.tasks.length := by
  simpa [tracked] using List.length_filter_le (fun i => (c.stage? i).any Stage.isTracked)
    (List.range c.tasks.length)

/-- A canceller that is not done brings its work nearer to its end. -/
theorem left_cancelStep_lt (hk : k < c.cancellers.length) (hd : c.hasCancelled k = false) :
    (c.cancelStep k).left k < c.left k := by
  obtain ⟨hq, e⟩ | ⟨hq, e⟩ | ⟨i, rest, hq, e⟩ | ⟨hdone, -⟩ := cancelStep_cases c k
  · rw [e]
    simp only [left, hq, List.getElem?_set_self hk, Option.map_some, Option.getD_some,
      Canceller.left]
    omega
  · have hle := c.length_tracked_le
    rw [e]
    simp only [left, hq, List.getElem?_set_self hk, Option.map_some, Option.getD_some,
      Canceller.left]
    omega
  · rw [e]
    simp only [left, cancellers_kill, hq, List.getElem?_set_self hk, Option.map_some,
      Option.getD_some, Canceller.left, List.length_cons]
    omega
  · rw [hasCancelled, List.getElem?_eq_getElem hk, Option.any_some,
      hdone _ (List.getElem?_eq_getElem hk)] at hd
    cases hd

@[simp] theorem length_cancellers_cancelStep :
    (c.cancelStep k).cancellers.length = c.cancellers.length := by
  obtain ⟨-, e⟩ | ⟨-, e⟩ | ⟨i, rest, -, e⟩ | ⟨-, e⟩ := cancelStep_cases c k <;> rw [e] <;> simp

/-- No canceller goes away. -/
theorem length_cancellers_le_step (ctx : Context) (c : Crew) (m : Move) :
    c.cancellers.length ≤ (c.step ctx m).cancellers.length := by
  cases m <;> simp [step, call]

end Crew
end LintRun.Analysis

namespace LintRun.Runner

open Analysis

/-- How far a phase is from the last one. -/
def Phase.rung : Phase → Nat
  | .asking | .waiting => 6
  | .handling _ => 5
  | .leaving => 4
  | .stopping _ => 3
  | .withdrawing _ => 2
  | .joining => 1
  | .over => 0

namespace Course

variable {r : Runner} {x : Course} {i : Nat}

/-- What is left to do in a phase. -/
def remaining (x : Course) : Nat :=
  match x.phase with
  | .asking => 2 * (x.series.files.length - x.given.length) + 1
  | .waiting => 2 * (x.series.files.length - x.given.length)
  | .handling k | .stopping k => x.crew.left k
  | .withdrawing j => x.series.files.length - j
  | .leaving | .joining | .over => 0

/-- How far a course is from its end. -/
def distance (x : Course) : Nat ×ₗ Nat ×ₗ Nat :=
  toLex (x.phase.rung, toLex (x.remaining, x.crew.labour))

variable {x' : Course}

/-- A phase further on is nearer to the end, whatever else there is left. -/
theorem distance_lt_of_rung (h : x'.phase.rung < x.phase.rung) : x'.distance < x.distance :=
  Prod.Lex.toLex_lt_toLex.2 (.inl h)

/-- Within a phase fewer files that are left are nearer to the end. -/
theorem distance_lt_of_remaining (hp : x'.phase.rung = x.phase.rung)
    (h : x'.remaining < x.remaining) :
    x'.distance < x.distance :=
  Prod.Lex.toLex_lt_toLex.2 (.inr ⟨hp, Prod.Lex.toLex_lt_toLex.2 (.inl h)⟩)

/-- With as many files left, less labour is nearer to the end. -/
theorem distance_lt_of_labour (hp : x'.phase.rung = x.phase.rung) (hr : x'.remaining = x.remaining)
    (h : x'.crew.labour < x.crew.labour) : x'.distance < x.distance :=
  Prod.Lex.toLex_lt_toLex.2 (.inr ⟨hp, Prod.Lex.toLex_lt_toLex.2 (.inr ⟨hr, h⟩)⟩)

/-! ### Who may go on -/

/-- Whoever handles an interruption or leaves a series unfinished has called a canceller, and only
parallel series are left unfinished. -/
structure IsAttended (x : Course) : Prop where
  called : ∀ k, x.phase = .handling k ∨ x.phase = .stopping k → k < x.crew.cancellers.length
  parallel : 0 < x.phase.rung → x.phase.rung ≤ 4 → x.series.parallel = true

namespace IsAttended

theorem start (c : Crew) (s : Series) : (Course.start c s).IsAttended :=
  ⟨by simp [Course.start], by simp [Course.start, Phase.rung]⟩

theorem finish (x : Course) : x.finish.IsAttended := by
  refine ⟨fun k hk => ?_, fun hpos _ => ?_⟩
  · rcases x.phase_finish with h | h <;> simp [h] at hk
  · cases hs : x.series.parallel with
    | true => exact hs
    | false => simp [Course.finish, hs, Phase.rung] at hpos

theorem fail (f : Failure) (x : Course) : (x.fail f).IsAttended := by
  simp only [Course.fail]
  split
  · exact ⟨by simp [Crew.call], by simp [Phase.rung]⟩
  · exact .finish _

theorem of_open (h : x.IsOpen) : x.IsAttended := by
  rcases h with h | h <;> exact ⟨by simp [h], by simp [h, Phase.rung]⟩

/-- More cancellers may be called. -/
theorem of_length_le (h : x.IsAttended) {c : Crew}
    (hc : x.crew.cancellers.length ≤ c.cancellers.length) :
    ({ x with crew := c } : Course).IsAttended :=
  ⟨fun k hk => (h.called k hk).trans_le hc, h.parallel⟩

theorem proceed (h : x.IsAttended) : (x.proceed r).IsAttended := by
  have hpar := h.parallel
  simp only [Course.proceed]
  split
  · simp only [ask]
    split
    · exact .finish x
    · exact .of_open (.inr rfl)
  · next hp =>
    simp only [take]
    split
    · exact h
    · split
      · exact .of_open (.inl rfl)
      · exact .finish x
      · exact .fail _ x
  · split
    · exact .finish x
    · exact h.of_length_le (by simp)
  · next hp =>
    rw [hp] at hpar
    split
    · exact ⟨by simp, by simp [Phase.rung]⟩
    · exact ⟨by simp [Crew.call], fun _ _ => hpar (by simp [Phase.rung]) (by simp [Phase.rung])⟩
  · next hp =>
    rw [hp] at hpar
    split
    · exact ⟨by simp, fun _ _ => hpar (by simp [Phase.rung]) (by simp [Phase.rung])⟩
    · exact h.of_length_le (by simp)
  · next hp =>
    rw [hp] at hpar
    split <;> exact ⟨by simp, fun _ _ => hpar (by simp [Phase.rung]) (by simp [Phase.rung])⟩
  · split
    · exact ⟨by simp, by simp [Phase.rung]⟩
    · exact h
  · exact h

theorem step (h : x.IsAttended) (turn : Turn) : (x.step r turn).IsAttended := by
  cases turn with
  | taker => exact h.proceed
  | crew m =>
    have hmove := h.of_length_le (Crew.length_cancellers_le_step r.context x.crew m)
    cases m with
    | work i =>
      simp only [Course.step]
      split
      · exact hmove
      · exact h
    | exit | call | cancel => exact hmove

theorem run (h : x.IsAttended) (turns : List Turn) : (x.run r turns).IsAttended :=
  run_induction (K := fun _ => True) (fun _ turn _ h => h.step turn) h fun _ _ => trivial

end IsAttended

/-- While a parallel series has unfinished tasks, one of them may go on: one that has begun or, if
none is at work, the first that has not. -/
theorem exists_mayWork (hpar : x.series.parallel = true) (hj : 1 ≤ r.jobs) {t : Task}
    (ht : t ∈ x.tasks) (hf : t.stage.isFinished = false) :
    ∃ i t', x.mayWork r i = true ∧ x.crew.tasks[i]? = some t' ∧ t'.stage.isFinished = false := by
  by_cases hbusy : ∃ t' ∈ x.tasks, t'.stage.isBusy = true
  · obtain ⟨t', ht', hb⟩ := hbusy
    obtain ⟨j, hj⟩ := List.getElem?_of_mem ht'
    have htask : x.crew.tasks[x.first + j]? = some t' := by simpa [tasks] using hj
    simp only [Stage.isBusy, Bool.and_eq_true, decide_eq_true_eq, Bool.not_eq_true'] at hb
    exact ⟨x.first + j, t', by simp [mayWork, hpar, Crew.stage?, htask, hb.1], htask, hb.2⟩
  · have hidle : x.busy = 0 := by
      simpa [busy, List.countP_eq_zero] using hbusy
    have hq : t.stage = .queued := by
      by_contra hne
      exact hbusy ⟨t, ht, by simp [Stage.isBusy, hne, hf]⟩
    have hex : ∃ (j : Nat) (t' : Task), x.tasks[j]? = some t' ∧ t'.stage = .queued := by
      obtain ⟨j, hj⟩ := List.getElem?_of_mem ht
      exact ⟨j, t, hj, hq⟩
    classical
    obtain ⟨t', ht', hq'⟩ := Nat.find_spec hex
    have hbefore : ∀ u ∈ x.tasks.take (Nat.find hex), u.stage ≠ .queued := by
      intro u hu hqu
      obtain ⟨m, hm⟩ := List.getElem?_of_mem hu
      rw [List.getElem?_take] at hm
      split_ifs at hm with hlt
      exact Nat.find_min hex hlt ⟨u, hm, hqu⟩
    refine ⟨x.first + Nat.find hex, t', ?_, by simpa [tasks] using ht',
      by simp [hq', Stage.isFinished, Stage.result?]⟩
    simp only [mayWork, hpar, if_true, Nat.add_sub_cancel_left, hidle, Bool.and_eq_true,
      Bool.or_eq_true, List.all_eq_true, decide_eq_true_eq]
    exact ⟨Nat.le_add_right _ _, .inr ⟨fun u hu => by simpa using hbefore u hu, hj⟩⟩

/-- A task that may go on brings the course nearer to its end. -/
theorem work_nearer (hp : x.phase = .waiting ∨ x.phase = .joining) (hmay : x.mayWork r i = true)
    {t : Task} (ht : x.crew.tasks[i]? = some t) (hf : t.stage.isFinished = false) :
    ∃ turn : Turn, turn.isCalm = true ∧ (x.step r turn).distance < x.distance := by
  refine ⟨.crew (.work i), rfl, ?_⟩
  simp only [step, hmay, if_true]
  refine distance_lt_of_labour rfl ?_ (Crew.labour_work_lt ht hf)
  rcases hp with hp | hp <;> simp only [remaining, hp]

/-- To stop asking for sections is a step towards the end. -/
theorem IsOpen.distance_lt (h : x.IsOpen) (h' : x'.phase.rung ≤ 5) : x'.distance < x.distance := by
  refine distance_lt_of_rung (h'.trans_lt ?_)
  rcases h with h | h <;> simp [h, Phase.rung]

theorem rung_finish (x : Course) : x.finish.phase.rung ≤ 4 := by
  rcases x.phase_finish with h | h <;> simp [h, Phase.rung]

theorem rung_fail (f : Failure) (x : Course) : (x.fail f).phase.rung ≤ 5 := by
  simp only [fail]
  split
  · simp [Phase.rung]
  · exact (rung_finish _).trans (by omega)

/-- A result that is there is taken. -/
theorem take_nearer (h : x.Sound r) (hp : x.phase = .waiting) {result : Result}
    (hr : x.crew.result? x.current = some result) : (x.take r).distance < x.distance := by
  simp only [take, hr]
  cases hg : r.given result with
  | error f => exact IsOpen.distance_lt (.inr hp) (rung_fail f x)
  | ok answer =>
    cases answer with
    | none => exact IsOpen.distance_lt (.inr hp) (x.rung_finish.trans (by omega))
    | some s =>
      have hin := h.staffed.inside hp
      refine distance_lt_of_remaining (by simp [hp, Phase.rung]) ?_
      simp only [remaining, hp, List.length_append, List.length_singleton]
      omega

/-- Whoever waits for a section gets it, or a task goes on. -/
theorem waiting_nearer (h : x.Sound r) (hj : x.series.parallel = true → 1 ≤ r.jobs)
    (hp : x.phase = .waiting) :
    ∃ turn : Turn, turn.isCalm = true ∧ (x.step r turn).distance < x.distance := by
  have hin := h.staffed.inside hp
  have hlt : x.current < x.crew.tasks.length := by
    cases hs : x.series.parallel with
    | false => simp [h.staffed.waiting hs hp]
    | true => simp only [h.staffed.hired hs (by simp [hp]), current]; omega
  have ht := List.getElem?_eq_getElem hlt
  generalize x.crew.tasks[x.current] = t at ht
  cases hf : t.stage.isFinished with
  | true =>
    obtain ⟨result, hresult⟩ := Option.isSome_iff_exists.1 hf
    have hr : x.crew.result? x.current = some result := Crew.result?_eq_some_iff.2 ⟨t, ht, hresult⟩
    exact ⟨.taker, rfl, by simpa only [step, proceed, hp] using take_nearer h hp hr⟩
  | false =>
    cases hs : x.series.parallel with
    | false => exact work_nearer (.inl hp) (by simp [mayWork, hs, hp]) ht hf
    | true =>
      have hmem : t ∈ x.tasks := by
        refine List.mem_of_getElem? (i := x.given.length) ?_
        simpa [tasks, current] using ht
      obtain ⟨i, t', hmay, ht', hf'⟩ := exists_mayWork hs (hj hs) hmem hf
      exact work_nearer (.inl hp) hmay ht' hf'

/-- **Some turn that cancels nothing brings a course nearer to its end.** -/
theorem exists_nearer (h : x.Sound r) (ha : x.IsAttended)
    (hj : x.series.parallel = true → 1 ≤ r.jobs) (hover : x.phase ≠ .over) :
    ∃ turn : Turn, turn.isCalm = true ∧ (x.step r turn).distance < x.distance := by
  cases hp : x.phase with
  | waiting => exact waiting_nearer h hj hp
  | «over» => exact absurd hp hover
  | joining =>
    by_cases hs : x.isSettled = true
    · exact ⟨.taker, rfl, distance_lt_of_rung (by simp [step, proceed, hp, hs, Phase.rung])⟩
    · obtain ⟨t, ht, hf⟩ : ∃ t ∈ x.tasks.take x.series.files.length,
          t.stage.isFinished = false := by
        simpa [isSettled, Runner.isSettled, tasks] using hs
      have hpar := ha.parallel (by simp [hp, Phase.rung]) (by simp [hp, Phase.rung])
      obtain ⟨i, t', hmay, ht', hf'⟩ := exists_mayWork hpar (hj hpar) (List.mem_of_mem_take ht) hf
      exact work_nearer (.inr hp) hmay ht' hf'
  | asking =>
    refine ⟨.taker, rfl, ?_⟩
    simp only [step, proceed, hp, ask]
    split
    · exact IsOpen.distance_lt (.inl hp) (x.rung_finish.trans (by omega))
    · exact distance_lt_of_remaining (by simp [hp, Phase.rung]) (by simp [remaining, hp])
  | handling k =>
    refine ⟨.taker, rfl, ?_⟩
    simp only [step, proceed, hp]
    split
    · exact distance_lt_of_rung (x.rung_finish.trans_lt (by simp [hp, Phase.rung]))
    · next hk =>
      refine distance_lt_of_remaining (by rw [hp]) ?_
      simpa only [remaining, hp] using Crew.left_cancelStep_lt
        (ha.called k (.inl hp)) (by simpa using hk)
  | leaving =>
    refine ⟨.taker, rfl, distance_lt_of_rung ?_⟩
    simp only [step, proceed, hp]
    split <;> simp [Phase.rung]
  | stopping k =>
    refine ⟨.taker, rfl, ?_⟩
    simp only [step, proceed, hp]
    split
    · exact distance_lt_of_rung (by simp [hp, Phase.rung])
    · next hk =>
      refine distance_lt_of_remaining (by rw [hp]) ?_
      simpa only [remaining, hp] using Crew.left_cancelStep_lt
        (ha.called k (.inr hp)) (by simpa using hk)
  | withdrawing j =>
    refine ⟨.taker, rfl, ?_⟩
    simp only [step, proceed, hp]
    split
    · exact distance_lt_of_remaining (by simp [hp, Phase.rung])
        (by simp only [remaining, hp]; omega)
    · exact distance_lt_of_rung (by simp [hp, Phase.rung])

/-- **A course comes to its end**, wherever it stands and without anybody cancelling. -/
theorem exists_over (h : x.Sound r) (ha : x.IsAttended)
    (hj : x.series.parallel = true → 1 ≤ r.jobs) :
    ∃ turns : List Turn, (∀ turn ∈ turns, turn.isCalm = true) ∧ (x.run r turns).phase = .over := by
  induction hd : x.distance using WellFoundedLT.induction generalizing x with
  | ind d ih =>
    subst hd
    by_cases hover : x.phase = .over
    · exact ⟨[], by simp, hover⟩
    · obtain ⟨turn, hcalm, hlt⟩ := exists_nearer h ha hj hover
      obtain ⟨turns, hturns, hrun⟩ := ih _ hlt (h.step turn) (ha.step turn) (by simpa using hj) rfl
      exact ⟨turn :: turns, List.forall_mem_cons.2 ⟨hcalm, hturns⟩, hrun⟩

end Course
end LintRun.Runner
