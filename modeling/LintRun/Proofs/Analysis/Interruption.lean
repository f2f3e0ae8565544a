import Mathlib
import LintRun.Proofs.Analysis.Agreement

/-!
# Proofs — Analysis — Interruptions

What an interruption leaves behind when one job works at a series. The task whose wait is
interrupted stops keeping track of its process before the interruption is handled, so the canceller
that handles it does not find the process any more.

* `Task.Spared`: while nobody cancels, a process is killed only when its time is over.
* `Course.IsAlone`: the invariant of a series that one job works at. Whoever handles an interruption
  has no task of the series for a target.
* `interruption_stops_all_iff`: every process of the series has ended or was killed exactly if the
  interrupted one has ended by itself or its time was over.
-/

namespace LintRun

namespace Analysis

/-- While nobody cancels, a process is killed only when its time is over. The wait that is
interrupted then is the one after that. -/
def Task.Spared (t : Task) : Prop :=
  match t.stage with
  | .spawned p | .tracked p => p.isKilled = false
  | .waiting p expired => p.isKilled = expired ∧ (expired = true → p.conduct.interrupts = false)
  | .left p (.raised f) | .finished (some p) (.raised f) =>
    f = .interrupted → p.isKilled = !p.conduct.interrupts
  | _ => True

namespace Task.Spared

variable {ctx : Context} {t t' : Task}

theorem of_queued (h : t.stage = .queued) : t.Spared := by
  simp [Task.Spared, h]

theorem mapProcess_exit (h : t.Spared) :
    Task.Spared { t with stage := t.stage.mapProcess Process.exit } := by
  obtain ⟨file, command, stage⟩ := t
  cases stage with
  | queued | cleared | concluding => trivial
  | spawned p | tracked p | waiting p e => exact h
  | left p how => cases how <;> exact h
  | finished p r => cases p <;> cases r <;> exact h

/-- A task is spared by its own steps while the flag is down. -/
theorem advance (h : t.Spared) : (t.advance ctx false).1.Spared := by
  obtain ⟨file, command, stage⟩ := t
  cases stage with
  | queued => trivial
  | cleared =>
    simp only [Task.advance]
    split <;> trivial
  | spawned p => exact h
  | tracked p => exact ⟨h, by simp⟩
  | waiting p e =>
    obtain ⟨hk, hi⟩ := h
    obtain ⟨f, hf, hstep⟩ | ⟨hcalm, rfl, -, hstep⟩ | ⟨-, -, hstep⟩ :=
      Task.advance_waiting_cases ctx false file command p e <;> rw [hstep]
    · rintro rfl
      cases e with
      | true => simp [hk, hi rfl]
      | false => simp [hk, Conduct.raises?_false_eq_interrupted.1 hf]
    · exact ⟨by simp, fun _ => (Conduct.raises?_false_eq_none.1 hcalm).1⟩
    · trivial
  | left p how => cases how <;> exact h
  | concluding p e =>
    simp only [Task.advance, Bool.false_and, Bool.false_eq_true, if_false]
    trivial
  | finished p r => exact h

/-- A task is spared by every move while the flag is down. -/
theorem change (h : t.Spared) (hc : Change ctx false t t') : t'.Spared := by
  cases hc with
  | rest => exact h
  | advance => exact h.advance
  | exit => exact h.mapProcess_exit
  | kill _ _ _ hb => cases hb

end Task.Spared

/-- Every process of the tasks from a place on has ended or was killed. -/
def Crew.HasStoppedFrom (c : Crew) (first : Nat) : Prop :=
  ∀ j p, c.process? (first + j) = some p → p.exited = true ∨ p.isKilled = true

end Analysis

namespace Runner

open Analysis

theorem eq_interrupted_of_any {failure : Option Failure}
    (h : failure.any (fun f => isInterruption (.error f : Outcome Unit)) = true) :
    failure = some (.fault .interrupted) := by
  obtain ⟨f, rfl, hf⟩ := (Option.any_eq_true _ _).1 h
  unfold isInterruption at hf
  split at hf
  · simp_all
  · cases hf

namespace Course

variable {r : Runner} {x : Course}

/-- The invariant of a series that one job works at while nobody cancels. -/
structure IsAlone (x : Course) : Prop where
  alone : x.series.parallel = false
  spared : ∀ i t, x.first ≤ i → x.crew.tasks[i]? = some t → t.Spared
  /-- With a failure no more tasks are hired. -/
  staffed : ∀ f, x.failure = some f → x.crew.tasks.length = x.current + 1
  failed : ∀ k, x.phase = .handling k → x.failure.isSome = true
  /-- Whoever handles an interruption has no task of the series for a target. -/
  handling : ∀ k targets, x.phase = .handling k → x.crew.cancellers[k]? = some (.killing targets) →
    ∀ i ∈ targets, i < x.first
  ended : x.phase = .over → x.failure = some (.fault .interrupted) → x.crew.cancelled = true

/-- A task whose section was given out, or whose failure ends the series, is not tracked any
more. -/
theorem IsAlone.lt_first_of_mem_tracked (h : x.IsAlone) (hs : x.Sound r)
    (hf : x.failure.isSome = true) {i : Nat} (hi : i ∈ x.crew.tracked) : i < x.first := by
  obtain ⟨f, hf⟩ := Option.isSome_iff_exists.1 hf
  obtain ⟨hlt, htracked⟩ : i < x.crew.tasks.length ∧
      (x.crew.stage? i).any Stage.isTracked = true := by
    simpa [Crew.tracked] using hi
  by_contra hge
  obtain ⟨j, rfl⟩ := Nat.exists_eq_add_of_le (Nat.le_of_not_lt hge)
  have hresult : ∃ result, x.crew.result? (x.first + j) = some result := by
    have hlen := h.staffed f hf
    rcases Nat.lt_or_ge j x.given.length with hj | hj
    · exact ⟨_, (hs.given j _ (List.getElem?_eq_getElem hj)).1⟩
    · obtain rfl : j = x.given.length := by
        simp only [current] at hlen
        omega
      obtain ⟨-, result, hr, -⟩ := hs.failure f hf
      exact ⟨result, hr⟩
  obtain ⟨result, hresult⟩ := hresult
  obtain ⟨t, ht, hres⟩ := Crew.result?_eq_some_iff.1 hresult
  obtain ⟨p, hstage⟩ := Stage.result?_eq_some_iff.1 hres
  simp [Crew.stage?, ht, hstage, Stage.isTracked] at htracked

namespace IsAlone

theorem start {s : Series} (hs : s.parallel = false) (c : Crew) : (Course.start c s).IsAlone := by
  refine ⟨hs, fun i t hi ht =>
    ?_, by simp [Course.start], by simp [Course.start], by simp [Course.start],
    by simp [Course.start]⟩
  obtain ⟨j, rfl⟩ := Nat.exists_eq_add_of_le hi
  simp [Course.start] at ht

/-- A move that neither calls nor brings on a canceller, and kills nothing. -/
theorem of_changes (h : x.IsAlone) {c : Crew} (hc : Crew.Changes r.context false x.crew c)
    (hq : c.cancellers = x.crew.cancellers) : ({ x with crew := c } : Course).IsAlone := by
  refine ⟨h.alone, fun i t' hi ht' => ?_,
    fun f hf => hc.length_eq.trans (h.staffed f hf), h.failed, ?_, ?_⟩
  · obtain ⟨t, ht, hchange⟩ := hc.of_after ht'
    exact (h.spared i t hi ht).change hchange
  · simpa only [hq] using h.handling
  · simpa only [Crew.cancelled, hq] using h.ended

/-- The series ends. -/
theorem finish (h : x.IsAlone)
    (hc : x.failure = some (.fault .interrupted) → x.crew.cancelled = true) :
    x.finish.IsAlone := by
  have hphase : x.finish.phase = .over := by simp [Course.finish, h.alone]
  exact ⟨h.alone, h.spared, h.staffed, by simp [hphase], by simp [hphase], fun _ => hc⟩

/-- An interruption calls a canceller, which has no target yet. -/
theorem fail (h : x.IsAlone) (hp : x.phase = .waiting) (hlen : x.crew.tasks.length = x.current + 1)
    (f : Failure) :
    (x.fail f).IsAlone := by
  have hfailed : ({ x with failure := some f } : Course).IsAlone :=
    ⟨h.alone, h.spared, fun _ _ => hlen, fun _ _ => rfl, h.handling, fun ho => by simp [hp] at ho⟩
  simp only [Course.fail]
  cases hf : isInterruption (.error f : Outcome Unit) with
  | true =>
    refine ⟨h.alone, h.spared, fun _ _ => hlen, fun _ _ => rfl, fun k targets hk hq => ?_, by simp⟩
    obtain rfl : x.crew.cancellers.length = k := by simpa using hk
    simp [Crew.call] at hq
  | false =>
    refine hfailed.finish fun hi => ?_
    obtain rfl : f = .fault .interrupted := Option.some.inj hi
    cases hf

theorem ask (h : x.IsAlone) (hs : x.Sound r) (hp : x.phase = .asking) : (x.ask r).IsAlone := by
  have hopen : x.failure = none := hs.failure_eq_none (.inl hp)
  simp only [Course.ask]
  split
  · exact h.finish (by simp [hopen])
  · next file _ =>
    refine ⟨h.alone, fun i t hi ht => ?_, by simp [hopen], by simp, by simp, by simp⟩
    rw [Crew.tasks_enlist] at ht
    rcases lt_or_ge i x.crew.tasks.length with hlt | hge
    · exact h.spared i t hi (by rwa [List.getElem?_append_left hlt] at ht)
    · rw [List.getElem?_append_right hge] at ht
      have hmem := List.mem_of_getElem? ht
      simp only [recruits, h.alone, Bool.not_false, if_true, List.mem_singleton] at hmem
      exact .of_queued (by rw [hmem]; rfl)

theorem take (h : x.IsAlone) (hs : x.Sound r) (hp : x.phase = .waiting) : (x.take r).IsAlone := by
  have hopen : x.failure = none := hs.failure_eq_none (.inr hp)
  simp only [Course.take]
  split
  · exact h
  · split
    · exact ⟨h.alone, h.spared, by simp [hopen], by simp, by simp, by simp⟩
    · exact h.finish (by simp [hopen])
    · exact h.fail hp (hs.staffed.waiting h.alone hp) _

/-- The canceller that handles an interruption takes a step. -/
theorem set_canceller (h : x.IsAlone) {k : Nat} (hp : x.phase = .handling k) {q : Canceller}
    (hq : x.crew.cancellers[k]? = some q) (q' : Canceller)
    (htargets : ∀ targets, q' = .killing targets → ∀ i ∈ targets, i < x.first) :
    ({ x with crew := { x.crew with cancellers := x.crew.cancellers.set k q' } } :
      Course).IsAlone := by
  have hk : k < x.crew.cancellers.length := (List.getElem?_eq_some_iff.1 hq).1
  refine ⟨h.alone, h.spared, h.staffed, h.failed, fun k' targets hk' hget => ?_, by simp [hp]⟩
  obtain rfl : k = k' := by simpa [hp] using hk'
  exact htargets targets (by simpa [hk] using hget)

/-- A process of another series is killed. -/
theorem kill (h : x.IsAlone) {k : Nat} (hp : x.phase = .handling k) {i : Nat} (hi : i < x.first) :
    ({ x with crew := x.crew.kill i } : Course).IsAlone := by
  refine ⟨h.alone, fun j t hj ht => ?_,
    fun f hf => Crew.length_tasks_kill.trans (h.staffed f hf), h.failed, ?_, by simp [hp]⟩
  · exact h.spared j t hj (by rwa [Crew.kill_getElem?_ne (hi.trans_le hj).ne] at ht)
  · simpa only [Crew.cancellers_kill] using h.handling

theorem cancelStep (h : x.IsAlone) (hs : x.Sound r) {k : Nat} (hp : x.phase = .handling k) :
    ({ x with crew := x.crew.cancelStep k } : Course).IsAlone := by
  obtain ⟨hq, e⟩ | ⟨hq, e⟩ | ⟨i, rest, hq, e⟩ | ⟨-, e⟩ := Crew.cancelStep_cases x.crew k <;> rw [e]
  · exact h.set_canceller hp hq _ (by simp)
  · refine h.set_canceller hp hq _ fun targets ht i hi => ?_
    obtain rfl : x.crew.tracked = targets := by simpa using ht
    exact h.lt_first_of_mem_tracked hs (h.failed k hp) hi
  · have htargets := h.handling k _ hp hq
    have hset := h.set_canceller hp hq (.killing rest) fun targets ht j hj => by
      obtain rfl : rest = targets := by simpa using ht
      exact htargets j (List.mem_cons_of_mem i hj)
    exact hset.kill hp (htargets i List.mem_cons_self)
  · exact h

/-- A course that is alone stays alone when it proceeds. -/
theorem proceed (h : x.IsAlone) (hs : x.Sound r) (ha : x.IsAttended) : (x.proceed r).IsAlone := by
  -- only parallel series are left unfinished
  have hlate (hpos : 0 < x.phase.rung) (hle : x.phase.rung ≤ 4) : False := by
    have hpar := ha.parallel hpos hle
    rw [h.alone] at hpar
    cases hpar
  cases hp : x.phase with
  | asking => simpa only [Course.proceed, hp] using h.ask hs hp
  | waiting => simpa only [Course.proceed, hp] using h.take hs hp
  | handling k =>
    simp only [Course.proceed, hp]
    split
    · next hk => exact h.finish fun _ => Crew.cancelled_of_mem (Crew.mem_of_hasCancelled hk) rfl
    · simpa only [hp] using h.cancelStep hs hp
  | leaving | stopping | withdrawing | joining =>
    exact (hlate (by simp [hp, Phase.rung]) (by simp [hp, Phase.rung])).elim
  | «over» => simpa only [Course.proceed, hp] using h

/-- A course that is alone stays alone at every calm turn. -/
theorem step (h : x.IsAlone) (hs : x.Sound r) (ht : x.IsTrue r) (ha : x.IsAttended) {turn : Turn}
    (hcalm : turn.isCalm = true) : (x.step r turn).IsAlone := by
  cases turn with
  | taker => exact h.proceed hs ha
  | crew m =>
    cases m with
    | work i =>
      simp only [Course.step]
      split
      · next hmay =>
        have hp : x.phase = .waiting := by
          simp only [mayWork, h.alone, Bool.false_eq_true, if_false, Bool.and_eq_true,
            decide_eq_true_eq] at hmay
          exact hmay.1
        have hc := Crew.work_changes r.context x.crew i
        rw [ht.cancelled (.inr hp)] at hc
        exact h.of_changes hc (by simp)
      · exact h
    | exit i => exact h.of_changes (Crew.exit_changes r.context false x.crew i) Crew.cancellers_exit
    | call | cancel => cases hcalm

/-- A course that is alone stays alone over calm turns. -/
theorem run (h : x.IsAlone) (hs : x.Sound r) (ht : x.IsTrue r) (ha : x.IsAttended)
    {turns : List Turn} (hcalm : ∀ turn ∈ turns, turn.isCalm = true) : (x.run r turns).IsAlone := by
  let P (y : Course) : Prop := y.Sound r ∧ y.IsTrue r ∧ y.IsAttended ∧ y.IsAlone
  have hstep : ∀ (y : Course) (turn : Turn), turn.isCalm = true → P y → P (y.step r turn) := by
    rintro y turn hturn ⟨hs, ht, ha, h⟩
    exact ⟨hs.step turn, ht.step hs hturn, ha.step turn, h.step hs ht ha hturn⟩
  exact (run_induction hstep ⟨hs, ht, ha, h⟩ hcalm).2.2.2

/-- The process whose wait was interrupted was killed exactly if its time was over before. -/
theorem isKilled_eq (h : x.IsAlone) (hs : x.Sound r) (hf : x.failure = some (.fault .interrupted))
    {p : Process} (hp : x.crew.process? x.current = some p) :
    p.isKilled = !p.conduct.interrupts := by
  obtain ⟨-, result, hr, hg⟩ := hs.failure _ hf
  obtain rfl := eq_raised_of_given hg
  obtain ⟨t, ht, hprocess⟩ := Crew.process?_eq_some_iff.1 hp
  obtain ⟨t', ht', hresult⟩ := Crew.result?_eq_some_iff.1 hr
  obtain rfl : t = t' := Option.some.inj (ht.symm.trans ht')
  obtain ⟨q, hstage⟩ := Stage.result?_eq_some_iff.1 hresult
  obtain rfl : q = some p := by simpa [hstage, Stage.process?] using hprocess
  have hspared := h.spared _ t (Nat.le_add_right _ _) ht
  simp only [Task.Spared, hstage] at hspared
  exact hspared trivial

/-- **What an interruption leaves behind.** -/
theorem hasStoppedFrom_iff (h : x.IsAlone) (hs : x.Sound r)
    (hf : x.failure = some (.fault .interrupted)) {p : Process}
    (hp : x.crew.process? x.current = some p) :
    x.crew.HasStoppedFrom x.first ↔ p.exited = true ∨ p.conduct.interrupts = false := by
  have hkilled := h.isKilled_eq hs hf hp
  constructor
  · intro hall
    exact (hall x.given.length p hp).imp_right fun hk => by simpa [hk] using hkilled
  intro hend j q hq
  rcases Nat.lt_trichotomy j x.given.length with hj | rfl | hj
  · exact .inl (hs.process_of_given hj hq).1
  · obtain rfl : p = q := Option.some.inj (hp.symm.trans hq)
    exact hend.imp_right fun hi => by simp [hkilled, hi]
  · -- no task was hired for it
    have hlen := h.staffed _ hf
    obtain ⟨t, ht, -⟩ := Crew.process?_eq_some_iff.1 hq
    have hlt := (List.getElem?_eq_some_iff.1 ht).1
    simp only [current] at hlen
    omega

end IsAlone

/-- A series that one job works at, while nobody else cancels, in any order of turns. -/
theorem run_hasStoppedFrom_iff {s : Series} (hone : s.parallel = false) {c : Crew}
    (hc : c.cancelled = false) {turns : List Turn} (hcalm : ∀ turn ∈ turns, turn.isCalm = true) :
    let x := (Course.start c s).run r turns
    x.phase = .over → x.failure = some (.fault .interrupted) → x.crew.cancelled = true ∧
      ∀ p, x.crew.process? x.current = some p →
        (x.crew.HasStoppedFrom x.first ↔ p.exited = true ∨ p.conduct.interrupts = false) := by
  intro x hover hf
  have hstart : (Course.start c s).Sound r := Course.sound_start r c s
  have halone : x.IsAlone := (IsAlone.start hone c).run hstart (.start hc s) (.start c s) hcalm
  exact ⟨halone.ended hover hf, fun p hp => halone.hasStoppedFrom_iff (hstart.run turns) hf hp⟩

end Course

/-- **An interruption stops every process but the interrupted one.** Let one job work at a series
while nobody else cancels. When an interruption has ended the series, the flag is up, and every
process that was started for it has ended or was killed exactly if the interrupted process has ended
by itself, or the wait was the one after its time was over. Otherwise nobody stops it. So it is with
the run that takes all sections at once. -/
theorem interruption_stops_all_iff (r : Runner) (database : Path) (checks : String)
    (files : List Path) (hone : (r.series database checks files).parallel = false) (c : Crew)
    (hc : c.cancelled = false) :
    let s := r.series database checks files
    (∀ turns : List Turn, (∀ turn ∈ turns, turn.isCalm = true) →
      let x := (Course.start c s).run r turns
      x.phase = .over → x.failure = some (.fault .interrupted) → x.crew.cancelled = true ∧
        ∀ p, x.crew.process? x.current = some p →
          (x.crew.HasStoppedFrom x.first ↔ p.exited = true ∨ p.conduct.interrupts = false)) ∧
    (r.context.IsSteady →
      let all := r.all c s
      all.2.1 = some (.fault .interrupted) → all.2.2.1.cancelled = true ∧
        ∀ p, all.2.2.1.process? (c.tasks.length + all.1.length) = some p →
          (all.2.2.1.HasStoppedFrom c.tasks.length ↔
            p.exited = true ∨ p.conduct.interrupts = false)) := by
  intro s
  refine ⟨fun turns hcalm => Course.run_hasStoppedFrom_iff hone hc hcalm, ?_⟩
  intro hsteady all hf
  obtain ⟨turns, hrun, hcalm⟩ :=
    Course.leads_all (s := s) rfl (one_le_jobs_of_parallel database checks files) c
  have h := Course.run_hasStoppedFrom_iff (r := r) hone hc (hcalm hsteady)
  rw [hrun] at h
  exact h rfl hf

/-- One job, two files: the wait for the second analyzer is interrupted after its time was over. -/
theorem late_interruption_stops_all :
    let r : Runner :=
      { timeout := some ⟨0⟩
        launcher := fun _ command _ =>
          if command.getLast? = some "b" then
            .process { hangs := true, interruptsLate := true } else .process {} }
    let files : List Path := [⟨.relative, ["a"]⟩, ⟨.relative, ["b"]⟩]
    let all := r.all {} (r.series .here "" files)
    (r.series .here "" files).parallel = false ∧ r.context.IsSteady ∧
      all.2.1 = some (.fault .interrupted) ∧
      all.2.2.1.cancelled = true ∧
      ∃ p, all.2.2.1.process? 1 = some p ∧ p.exited = false ∧ all.2.2.1.HasStoppedFrom 0 := by
  intro r files all
  have hone : (r.series .here "" files).parallel = false := rfl
  have hsteady : r.context.IsSteady := by
    intro command c hc
    simp only [context, r] at hc
    split at hc <;> cases hc <;> rfl
  have hfailure : all.2.1 = some (.fault .interrupted) := eq_interrupted_of_any (by decide +kernel)
  have hgiven : all.1.length = 1 := by decide +kernel
  have hprocess : all.2.2.1.process? 1 =
      some ⟨{ hangs := true, interruptsLate := true }, [⟨.expiry, true⟩], false⟩ := by
    decide +kernel
  -- nothing is left to compute
  clear_value r files
  obtain ⟨hflag, hstopped⟩ :=
    (interruption_stops_all_iff r .here "" files hone {} rfl).2 hsteady hfailure
  exact ⟨hone, hsteady, hfailure, hflag, _, hprocess, rfl,
    (hstopped _ (by rw [hgiven]; exact hprocess)).2 (.inr rfl)⟩

/-- One job, one file: nobody stops the analyzer whose wait is interrupted. -/
theorem interruption_misses_interrupted_process :
    let r : Runner := { launcher := fun _ _ _ => .process { interrupts := true } }
    let all := r.all {} (r.series .here "" [⟨.relative, ["a.cc"]⟩])
    all.2.1 = some (.fault .interrupted) ∧ all.2.2.1.cancelled = true ∧
      ∃ p, all.2.2.1.process? 0 = some p ∧ p.exited = false ∧ p.isKilled = false :=
  ⟨eq_interrupted_of_any (by decide +kernel), by decide +kernel,
    { conduct := { interrupts := true } }, by decide +kernel, rfl, rfl⟩

end Runner
end LintRun
