import Mathlib
import LintRun.Proofs.Analysis.Verdict

/-!
# Proofs — Analysis — Crews

What one move does to a crew, said once.

* `Crew.Changes`: the tasks of a crew before and after, one for one.
* `Crew.step_changes`: a move changes every task as `Task.Change` allows.
* `Crew.cancelled_step`: the flag stays up.
* `Crew.SoundFrom`: the invariant of a crew, from the tasks of one series on; `Crew.SoundFrom.step`
  keeps it.
-/

namespace LintRun.Analysis

/-- The tasks of a crew before and after, under the flag `cancelled`. -/
structure Crew.Changes (ctx : Context) (cancelled : Bool) (c c' : Crew) : Prop where
  length_eq : c'.tasks.length = c.tasks.length
  change : ∀ {i : Nat} {t : Task}, c.tasks[i]? = some t →
    ∃ t', c'.tasks[i]? = some t' ∧ t.Change ctx cancelled t'

namespace Crew

variable {ctx : Context} {b : Bool} {c c' : Crew} {i j k : Nat} {t t' : Task}

/-! ### Looking at a task -/

theorem stage?_eq_some_iff {s : Stage} :
    c.stage? i = some s ↔ ∃ t, c.tasks[i]? = some t ∧ t.stage = s := by
  simp [stage?]

/-- A crew has the results of its tasks. -/
theorem result?_eq_some_iff {r : Result} :
    c.result? i = some r ↔ ∃ t, c.tasks[i]? = some t ∧ t.stage.result? = some r := by
  simp [result?, stage?, Option.bind_eq_some_iff]

/-- A crew has the processes of its tasks. -/
theorem process?_eq_some_iff {p : Process} :
    c.process? i = some p ↔ ∃ t, c.tasks[i]? = some t ∧ t.stage.process? = some p := by
  simp [process?, stage?, Option.bind_eq_some_iff]

/-! ### What the operations leave alone -/

@[simp] theorem cancellers_setTask : (c.setTask i t).cancellers = c.cancellers := rfl
@[simp] theorem cancelled_setTask : (c.setTask i t).cancelled = c.cancelled := rfl
@[simp] theorem cancellers_add (effects : List Effect) :
    (c.add effects).cancellers = c.cancellers := rfl
@[simp] theorem cancelled_add (effects : List Effect) : (c.add effects).cancelled = c.cancelled :=
  rfl
@[simp] theorem tasks_add (effects : List Effect) : (c.add effects).tasks = c.tasks := rfl
@[simp] theorem cancelled_enlist (ts : List Task) : (c.enlist ts).cancelled = c.cancelled := rfl
@[simp] theorem cancellers_enlist (ts : List Task) : (c.enlist ts).cancellers = c.cancellers := rfl
@[simp] theorem tasks_enlist (ts : List Task) : (c.enlist ts).tasks = c.tasks ++ ts := rfl

@[simp] theorem cancellers_work : (c.work ctx i).cancellers = c.cancellers := by
  unfold work; split <;> rfl

/-- Nobody who works raises the flag. -/
@[simp] theorem cancelled_work : (c.work ctx i).cancelled = c.cancelled := by
  simp [cancelled]

@[simp] theorem cancellers_exit : (c.exit ctx i).cancellers = c.cancellers := by
  unfold exit; split <;> (try split) <;> rfl

@[simp] theorem cancelled_exit : (c.exit ctx i).cancelled = c.cancelled := by
  simp [cancelled]

/-- A kill reaches a process that has not ended, or does nothing. -/
theorem kill_cases (c : Crew) (i : Nat) :
    (c.kill i = c ∧ ∀ t p, c.tasks[i]? = some t → t.stage.process? = some p → p.exited = true) ∨
    ∃ t p, c.tasks[i]? = some t ∧ t.stage.process? = some p ∧ p.exited = false ∧
      c.kill i = (c.setTask i
        { t with stage := t.stage.mapProcess (Process.kill .cancellation) }).add
        [.noted (.processKilled 0), .killed t.file] := by
  unfold kill
  cases ht : c.tasks[i]? with
  | none => exact .inl ⟨rfl, by simp⟩
  | some t =>
    cases hp : t.stage.process? with
    | none => exact .inl ⟨by simp [hp], by rintro t' p' h; cases h; simp [hp]⟩
    | some p =>
      cases he : p.exited with
      | true =>
        refine .inl ⟨by simp [hp, he], ?_⟩
        rintro t' p' h
        cases h
        simp only [hp, Option.some.injEq]
        rintro rfl
        exact he
      | false => exact .inr ⟨t, p, rfl, hp, he, by simp [hp, he]⟩

/-- A kill loses no task. -/
theorem length_tasks_kill : (c.kill i).tasks.length = c.tasks.length := by
  obtain ⟨e, -⟩ | ⟨t, p, -, -, -, e⟩ := kill_cases c i <;> rw [e]
  simp [setTask]

/-- A kill touches no task but the one whose process is killed. -/
theorem kill_getElem?_ne (h : i ≠ j) : (c.kill i).tasks[j]? = c.tasks[j]? := by
  obtain ⟨e, -⟩ | ⟨t, p, -, -, -, e⟩ := kill_cases c i <;> rw [e]
  simp [setTask, List.getElem?_set_ne h]

/-- What a canceller can do next. -/
theorem cancelStep_cases (c : Crew) (k : Nat) :
    (c.cancellers[k]? = some .idle ∧
      c.cancelStep k = { c with cancellers := c.cancellers.set k .flagged }) ∨
    (c.cancellers[k]? = some .flagged ∧
      c.cancelStep k = { c with cancellers := c.cancellers.set k (.killing c.tracked) }) ∨
    (∃ i rest, c.cancellers[k]? = some (.killing (i :: rest)) ∧
      c.cancelStep k = ({ c with cancellers := c.cancellers.set k (.killing rest) }).kill i) ∨
    ((∀ q, c.cancellers[k]? = some q → q.isDone = true) ∧ c.cancelStep k = c) := by
  unfold cancelStep
  cases hq : c.cancellers[k]? with
  | none => exact .inr (.inr (.inr ⟨by simp, rfl⟩))
  | some q =>
    cases q with
    | idle => exact .inl ⟨rfl, rfl⟩
    | flagged => exact .inr (.inl ⟨rfl, rfl⟩)
    | killing targets =>
      cases targets with
      | nil => exact .inr (.inr (.inr ⟨by simp [Canceller.isDone], rfl⟩))
      | cons i rest => exact .inr (.inr (.inl ⟨i, rest, rfl, rfl⟩))

@[simp] theorem cancellers_kill : (c.kill i).cancellers = c.cancellers := by
  obtain ⟨h, -⟩ | ⟨t, p, -, -, -, h⟩ := kill_cases c i <;> rw [h]
  simp

@[simp] theorem cancelled_kill : (c.kill i).cancelled = c.cancelled := by
  simp [cancelled]

@[simp] theorem cancelled_call : c.call.cancelled = c.cancelled := by
  simp [cancelled, call, Canceller.hasBegun]

@[simp] theorem cancellers_withdraw : (c.withdraw i).cancellers = c.cancellers := by
  unfold withdraw; split <;> (try split) <;> rfl

@[simp] theorem cancelled_withdraw : (c.withdraw i).cancelled = c.cancelled := by
  simp [cancelled]

/-! ### The flag -/

/-- Whoever has begun to cancel has raised the flag. -/
theorem cancelled_of_mem {q : Canceller} (h : q ∈ c.cancellers) (hq : q.hasBegun = true) :
    c.cancelled = true :=
  List.any_eq_true.2 ⟨q, h, hq⟩

/-- Whoever is killing has raised the flag. -/
theorem cancelled_of_killing {rest : List Nat} (h : c.cancellers[k]? = some (.killing rest)) :
    c.cancelled = true :=
  cancelled_of_mem (List.mem_of_getElem? h) rfl

/-- A canceller that takes its next step keeps the flag up. -/
theorem cancelled_set {q q' : Canceller} (h : c.cancellers[k]? = some q)
    (hq : q.hasBegun = true → q'.hasBegun = true) (hc : c.cancelled = true) :
    (c.cancellers.set k q').any Canceller.hasBegun = true := by
  obtain ⟨p, hp, hb⟩ := List.any_eq_true.1 hc
  obtain ⟨n, hn⟩ := List.getElem?_of_mem hp
  have hk : k < c.cancellers.length := (List.getElem?_eq_some_iff.1 h).1
  refine List.any_eq_true.2 ?_
  by_cases e : k = n
  · subst e
    obtain rfl : q = p := Option.some.inj (h.symm.trans hn)
    exact ⟨q', List.mem_of_getElem? (i := k) (by simp [hk]), hq hb⟩
  · exact ⟨p, List.mem_of_getElem? (i := n) (by simp [List.getElem?_set_ne e, hn]), hb⟩

/-- The flag that is up stays up while processes are killed. -/
theorem cancelled_cancelStep (h : c.cancelled = true) : (c.cancelStep k).cancelled = true := by
  obtain ⟨hk, e⟩ | ⟨hk, e⟩ | ⟨i, rest, hk, e⟩ | ⟨-, e⟩ := cancelStep_cases c k <;> rw [e]
  · exact cancelled_set hk (fun _ => rfl) h
  · exact cancelled_set hk (fun _ => rfl) h
  · rw [cancelled_kill]
    exact cancelled_set hk (fun _ => rfl) h
  · exact h

/-- Nobody takes the flag down. -/
theorem cancelled_step (m : Move) (h : c.cancelled = true) : (c.step ctx m).cancelled = true := by
  cases m with
  | work i => simpa [step] using h
  | exit i => simpa [step] using h
  | call => simpa [step] using h
  | cancel k => exact cancelled_cancelStep h

/-- What every move keeps, a run keeps. -/
theorem run_induction {P : Crew → Prop} (hstep : ∀ (c : Crew) (m : Move), P c → P (c.step ctx m))
    (h : P c) (moves : List Move) : P (c.run ctx moves) := by
  induction moves generalizing c with
  | nil => exact h
  | cons m moves ih => exact ih (hstep c m h)

/-! ### What a move does to the tasks -/

namespace Changes

theorem of_tasks_eq (h : c'.tasks = c.tasks) : Changes ctx b c c' :=
  ⟨by rw [h], fun ht => ⟨_, by rw [h]; exact ht, .rest⟩⟩

theorem refl : Changes ctx b c c := of_tasks_eq rfl

theorem setTask (h : c.tasks[i]? = some t) (hc : t.Change ctx b t') :
    Changes ctx b c (c.setTask i t') := by
  refine ⟨by simp [Crew.setTask], fun {j u} hu => ?_⟩
  have hi : i < c.tasks.length := (List.getElem?_eq_some_iff.1 h).1
  by_cases e : i = j
  · subst e
    obtain rfl : t = u := Option.some.inj (h.symm.trans hu)
    exact ⟨t', by simp [Crew.setTask, hi], hc⟩
  · exact ⟨u, by simp [Crew.setTask, List.getElem?_set_ne e, hu], .rest⟩

/-- Effects are no part of the tasks. -/
theorem add (h : Changes ctx b c c') (effects : List Effect) : Changes ctx b c (c'.add effects) :=
  ⟨h.length_eq, h.change⟩

end Changes

/-- A kill is one that a canceller gives. -/
theorem kill_changes (ctx : Context) (c : Crew) (i : Nat) : Changes ctx true c (c.kill i) := by
  obtain ⟨e, -⟩ | ⟨t, p, ht, hp, he, e⟩ := kill_cases c i <;> rw [e]
  · exact .refl
  · exact (Changes.setTask ht (.kill p hp he rfl)).add _

/-- A step of a canceller is a move on each task that it touches. -/
theorem cancelStep_changes : Changes ctx c.cancelled c (c.cancelStep k) := by
  obtain ⟨-, e⟩ | ⟨-, e⟩ | ⟨i, rest, hk, e⟩ | ⟨-, e⟩ := cancelStep_cases c k <;> rw [e]
  · exact .of_tasks_eq rfl
  · exact .of_tasks_eq rfl
  · rw [cancelled_of_killing hk]
    have h := kill_changes ctx { c with cancellers := c.cancellers.set k (.killing rest) } i
    exact ⟨h.length_eq, h.change⟩
  · exact .refl

/-- A step of a task is a move on that task alone. -/
theorem work_changes (ctx : Context) (c : Crew) (i : Nat) :
    Changes ctx c.cancelled c (c.work ctx i) := by
  simp only [work]
  cases ht : c.tasks[i]? with
  | none => exact .refl
  | some t => exact (Changes.setTask ht .advance).add _

/-- A process may end whether the flag is up or not. -/
theorem exit_changes (ctx : Context) (b : Bool) (c : Crew) (i : Nat) :
    Changes ctx b c (c.exit ctx i) := by
  simp only [exit]
  cases ht : c.tasks[i]? with
  | none => exact .refl
  | some t =>
    cases hp : t.stage.process? with
    | none => simpa [hp] using Changes.refl
    | some p =>
      cases he : Task.expires ctx p with
      | true => simpa [hp, he] using Changes.refl
      | false => simpa [hp, he] using Changes.setTask ht (.exit p hp he)

/-- **A move changes every task as `Task.Change` allows.** -/
theorem step_changes (ctx : Context) (c : Crew) (m : Move) :
    Changes ctx c.cancelled c (c.step ctx m) := by
  cases m with
  | work i => exact work_changes ctx c i
  | exit i => exact exit_changes ctx c.cancelled c i
  | call => exact .of_tasks_eq rfl
  | cancel k => exact cancelStep_changes

/-- A task after a move comes from the task before it. -/
theorem Changes.of_after (h : Changes ctx b c c') (ht : c'.tasks[i]? = some t') :
    ∃ t, c.tasks[i]? = some t ∧ t.Change ctx b t' := by
  have hi : i < c.tasks.length := by
    rw [← h.length_eq]
    exact (List.getElem?_eq_some_iff.1 ht).1
  obtain ⟨u, hu, hc⟩ := h.change (List.getElem?_eq_getElem hi)
  obtain rfl : u = t' := Option.some.inj (hu.symm.trans ht)
  exact ⟨_, List.getElem?_eq_getElem hi, hc⟩

/-- Results are final. -/
theorem Changes.result? (h : Changes ctx b c c') {r : Result} (hr : c.result? i = some r) :
    c'.result? i = some r := by
  obtain ⟨t, ht, hres⟩ := result?_eq_some_iff.1 hr
  obtain ⟨t', ht', hc⟩ := h.change ht
  exact result?_eq_some_iff.2 ⟨t', ht', hc.result? hres⟩

/-- Tasks that are hired change no result. -/
theorem result?_enlist {r : Result} (h : c.result? i = some r) (ts : List Task) :
    (c.enlist ts).result? i = some r := by
  obtain ⟨t, ht, hres⟩ := result?_eq_some_iff.1 h
  have hlt : i < c.tasks.length := (List.getElem?_eq_some_iff.1 ht).1
  exact result?_eq_some_iff.2 ⟨t, by rw [tasks_enlist, List.getElem?_append_left hlt, ht], hres⟩

/-- Under the raised flag, a task that is withdrawn finds nothing else than it would itself. -/
theorem withdraw_changes (h : c.cancelled = true) : Changes ctx c.cancelled c (c.withdraw i) := by
  unfold withdraw
  cases ht : c.tasks[i]? with
  | none => exact .refl
  | some t =>
    cases hs : decide (t.stage = .queued) with
    | false => simpa [of_decide_eq_false hs] using Changes.refl
    | true =>
      have hadvance : (t.advance ctx c.cancelled).1 =
          { t with stage := .finished none .nothing } := by
        simp [Task.advance, of_decide_eq_true hs, h]
      have hset : Changes ctx c.cancelled c (c.setTask i (t.advance ctx c.cancelled).1) :=
        .setTask ht .advance
      simpa [of_decide_eq_true hs, hadvance] using hset

/-! ### The invariant of a crew -/

/-- The tasks from a place on are sound. -/
def SoundFrom (ctx : Context) (first : Nat) (c : Crew) : Prop :=
  ∀ i t, first ≤ i → c.tasks[i]? = some t → t.Sound ctx c.cancelled

namespace SoundFrom

variable {first : Nat}

/-- The flag may have been raised meanwhile. -/
theorem of_changes (h : c.SoundFrom ctx first) (hc : Changes ctx c.cancelled c c')
    (hb : c.cancelled = true → c'.cancelled = true) : c'.SoundFrom ctx first := by
  intro i t' hi ht'
  obtain ⟨t, ht, hchange⟩ := hc.of_after ht'
  have hs : t'.Sound ctx c.cancelled := (h i t hi ht).change hchange
  cases e : c.cancelled with
  | true => rw [hb e]; rwa [e] at hs
  | false => rw [e] at hs; exact hs.raise _

theorem step (h : c.SoundFrom ctx first) (m : Move) : (c.step ctx m).SoundFrom ctx first :=
  h.of_changes (step_changes ctx c m) (cancelled_step m)

/-- New tasks have not begun. -/
theorem enlist (h : c.SoundFrom ctx first) {ts : List Task} (hts : ∀ t ∈ ts, t.stage = .queued) :
    (c.enlist ts).SoundFrom ctx first := by
  intro i t hi ht
  rw [tasks_enlist] at ht
  rcases lt_or_ge i c.tasks.length with hlt | hge
  · exact h i t hi (by rwa [List.getElem?_append_left hlt] at ht)
  · rw [List.getElem?_append_right hge] at ht
    have hq := hts t (List.mem_of_getElem? ht)
    simp [Task.Sound, hq]

end SoundFrom
end Crew
end LintRun.Analysis
