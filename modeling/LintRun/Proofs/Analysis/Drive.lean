import Mathlib
import LintRun.Proofs.Analysis.Cancellation

/-!
# Proofs — Analysis — Drives

What is done at once, a cancellation or all steps of a task, is a run of moves.

* `Crew.ranks`: the number of steps that are left to each task. Nobody but the task itself changes
  it.
* `Crew.ranks_drive`: a task that is driven is finished, and no other task gets nearer to its end.
* `Crew.cancels_cancel`: cancelling at once is what a new canceller does step by step.
* `Crew.drive_drives`: driving a task is a run of moves, with no canceller in it if no process
  provokes one.
-/

namespace LintRun.Analysis

/-- Whether a move may occur while task `i` is driven: no other task goes on, and nobody cancels
unless a process may provoke it. -/
def Move.Drives (ctx : Context) (i : Nat) (m : Move) : Prop :=
  (∀ j, m = .work j → j = i) ∧ (ctx.IsSteady → m = .work i)

namespace Crew

variable {ctx : Context} {c c' : Crew} {i k : Nat} {t : Task}

/-! ### The steps that are left -/

/-- The number of steps that are at most left to each task. -/
def ranks (c : Crew) : List Nat := c.tasks.map fun t => t.stage.rank

@[simp] theorem length_ranks (c : Crew) : c.ranks.length = c.tasks.length := by
  simp [ranks]

@[simp] theorem ranks_add (effects : List Effect) : (c.add effects).ranks = c.ranks := rfl
@[simp] theorem ranks_call : c.call.ranks = c.ranks := rfl

theorem ranks_enlist (c : Crew) (ts : List Task) :
    (c.enlist ts).ranks = c.ranks ++ ts.map fun t => t.stage.rank := by
  simp [ranks]

/-- A task that changes has its own number of steps left, and the others have theirs. -/
theorem ranks_setTask (c : Crew) (i : Nat) (t : Task) :
    (c.setTask i t).ranks = c.ranks.set i t.stage.rank := by
  simp [ranks, setTask, List.map_set]

theorem ranks_getElem? (ht : c.tasks[i]? = some t) : c.ranks[i]? = some t.stage.rank := by
  simp [ranks, ht]

/-- What happens to a process leaves the steps of its task alone. -/
theorem ranks_mapProcess (ht : c.tasks[i]? = some t) (f : Process → Process) :
    (c.setTask i { t with stage := t.stage.mapProcess f }).ranks = c.ranks := by
  obtain ⟨hlt, hrank⟩ := List.getElem?_eq_some_iff.1 (ranks_getElem? ht)
  rw [ranks_setTask, Stage.rank_mapProcess, ← hrank, List.set_getElem_self]

@[simp] theorem ranks_kill : (c.kill i).ranks = c.ranks := by
  obtain ⟨h, -⟩ | ⟨t, p, ht, -, -, h⟩ := kill_cases c i <;> rw [h]
  exact ranks_mapProcess ht _

@[simp] theorem ranks_exit : (c.exit ctx i).ranks = c.ranks := by
  simp only [exit]
  cases ht : c.tasks[i]? with
  | none => rfl
  | some t =>
    simp only
    split
    · exact ranks_mapProcess ht _
    · rfl

/-- What every kill keeps, cancelling at once keeps. -/
theorem cancel_induction {P : Crew → Prop} (hkill : ∀ (c : Crew) (i : Nat), P c → P (c.kill i))
    (h : P { c with cancellers := c.cancellers ++ [.killing []] }) : P c.cancel :=
  List.foldlRecOn c.tracked kill h fun c hc i _ => hkill c i hc

/-- A cancellation takes no step of any task. -/
@[simp] theorem ranks_cancel : c.cancel.ranks = c.ranks :=
  cancel_induction (P := fun c' => c'.ranks = c.ranks) (fun _ _ h => ranks_kill.trans h) rfl

/-- What a canceller can be provoked to. -/
theorem provoke_cases (ctx : Context) (c : Crew) (i : Nat) :
    c.provoke ctx i = c ∨ c.provoke ctx i = c.cancel ∨ c.provoke ctx i = (c.exit ctx i).cancel := by
  unfold provoke
  repeat' split
  all_goals simp

@[simp] theorem ranks_provoke : (c.provoke ctx i).ranks = c.ranks := by
  obtain h | h | h := provoke_cases ctx c i <;> simp [h]

/-- A step of a task brings it nearer to its end, unless it is there. -/
theorem ranks_work (ctx : Context) {m : Nat} (h : c.ranks[i]? = some m) :
    ∃ m', (m' < m ∨ m' = 0) ∧ (c.work ctx i).ranks = c.ranks.set i m' := by
  obtain ⟨t, ht, rfl⟩ : ∃ t, c.tasks[i]? = some t ∧ t.stage.rank = m := by
    simpa [ranks] using h
  refine ⟨(t.advance ctx c.cancelled).1.stage.rank,
    ?_, by simp only [work, ht, ranks_add, ranks_setTask]⟩
  cases hf : t.stage.isFinished with
  | true => exact .inr (by rwa [Task.advance_of_isFinished hf, Stage.rank_eq_zero_iff])
  | false => exact .inl (Task.rank_advance hf)

/-- A task that has taken a step has begun. -/
theorem begun_work : (c.work ctx i).ranks[i]? ≠ some 8 := by
  intro h
  cases ht : c.tasks[i]? with
  | none => simp [work, ht, ranks] at h
  | some t =>
    obtain ⟨m', hm', hwork⟩ := ranks_work ctx (ranks_getElem? ht)
    have hlt : i < c.ranks.length := (List.getElem?_eq_some_iff.1 (ranks_getElem? ht)).1
    have hle := t.stage.rank_le
    rw [hwork, List.getElem?_set_self hlt, Option.some.injEq] at h
    omega

@[simp] theorem ranks_cancelStep : (c.cancelStep k).ranks = c.ranks := by
  obtain ⟨-, e⟩ | ⟨-, e⟩ | ⟨i, rest, -, e⟩ | ⟨-, e⟩ := cancelStep_cases c k <;> rw [e]
  · rfl
  · rfl
  · exact ranks_kill

/-- A task that is driven for as many steps as it has left is finished. -/
theorem ranks_driveFor {n m : Nat} (h : c.ranks[i]? = some m) (hm : m ≤ n) :
    (driveFor ctx i n c).ranks = c.ranks.set i 0 := by
  induction n generalizing c m with
  | zero =>
    obtain ⟨hlt, hrank⟩ := List.getElem?_eq_some_iff.1 h
    obtain rfl : m = 0 := Nat.le_zero.1 hm
    rw [driveFor, ← hrank, List.set_getElem_self]
  | succ n ih =>
    obtain ⟨m', hm', hwork⟩ := ranks_work ctx (c := c.provoke ctx i) (by rwa [ranks_provoke])
    have hlt : i < c.ranks.length := (List.getElem?_eq_some_iff.1 h).1
    rw [ranks_provoke] at hwork
    rw [driveFor, ih (m := m') (by rw [hwork, List.getElem?_set_self hlt]) (by omega),
      hwork, List.set_set]

/-- **A task that is driven is finished**, and no other task gets nearer to its end. -/
theorem ranks_drive (hi : i < c.tasks.length) : (c.drive ctx i).ranks = c.ranks.set i 0 := by
  have ht := List.getElem?_eq_getElem hi
  exact ranks_driveFor (ranks_getElem? ht) (Stage.rank_le _)

/-! ### Cancelling at once -/

/-- A canceller takes its steps until it has done all it does. -/
inductive Cancels (k : Nat) : Crew → Crew → Prop where
  | done {c : Crew} (h : c.hasCancelled k = true) : Cancels k c c
  | more {c c' : Crew} (h : c.hasCancelled k = false) (t : Cancels k (c.cancelStep k) c') :
      Cancels k c c'

/-- A kill neither looks at the cancellers nor changes them. -/
theorem kill_with_cancellers (c : Crew) (i : Nat) (qs : List Canceller) :
    ({ c with cancellers := qs } : Crew).kill i = { c.kill i with cancellers := qs } := by
  simp only [kill]
  cases c.tasks[i]? with
  | none => rfl
  | some t =>
    simp only
    cases t.stage.process? with
    | none => rfl
    | some p =>
      simp only
      split <;> rfl

/-- Whoever kills one process after the other kills them all. -/
theorem cancels_of_killing {targets : List Nat} (h : c.cancellers[k]? = some (.killing targets)) :
    Cancels k c (targets.foldl kill { c with cancellers := c.cancellers.set k (.killing []) }) := by
  induction targets generalizing c with
  | nil =>
    obtain ⟨hk, hget⟩ := List.getElem?_eq_some_iff.1 h
    rw [List.foldl_nil, ← hget, List.set_getElem_self]
    exact .done (by simp [hasCancelled, h, Canceller.isDone])
  | cons i rest ih =>
    have hk : k < c.cancellers.length := (List.getElem?_eq_some_iff.1 h).1
    refine .more (by simp [hasCancelled, h, Canceller.isDone]) ?_
    have hstep : c.cancelStep k =
        { c.kill i with cancellers := c.cancellers.set k (.killing rest) } := by
      simp only [cancelStep, h, kill_with_cancellers]
    have hrest := ih (c := c.cancelStep k) (by simp [hstep, hk])
    rw [hstep] at hrest ⊢
    simpa [kill_with_cancellers] using hrest

/-- **Cancelling at once is what a new canceller does step by step.** -/
theorem cancels_cancel (c : Crew) : Cancels c.cancellers.length c.call c.cancel := by
  have hidle : c.call.cancellers[c.cancellers.length]? = some .idle := by simp [call]
  refine .more (by simp [hasCancelled, hidle, Canceller.isDone]) ?_
  set c₁ := c.call.cancelStep c.cancellers.length with h₁
  have hc₁ : c₁ = { c with cancellers := c.cancellers ++ [.flagged] } := by
    simp [h₁, cancelStep, call]
  refine .more (by simp [hc₁, hasCancelled, Canceller.isDone]) ?_
  have htargets : c₁.cancelStep c.cancellers.length =
      { c with cancellers := c.cancellers ++ [.killing c.tracked] } := by
    simp only [hc₁, cancelStep]
    simp [tracked, stage?]
  rw [htargets]
  simpa [cancel] using cancels_of_killing (k := c.cancellers.length)
    (c := { c with cancellers := c.cancellers ++ [.killing c.tracked] }) (by simp)

/-- A cancellation that goes through consists of moves of its canceller. -/
theorem Cancels.exists_moves (ctx : Context) (h : Cancels k c c') :
    ∃ n, c.run ctx (List.replicate n (.cancel k)) = c' := by
  induction h with
  | done => exact ⟨0, rfl⟩
  | more _ _ ih =>
    obtain ⟨n, hn⟩ := ih
    exact ⟨n + 1, hn⟩

/-! ### Driving a task -/

variable {first : Nat}

theorem run_append (ctx : Context) (c : Crew) (moves moves' : List Move) :
    c.run ctx (moves ++ moves') = (c.run ctx moves).run ctx moves' :=
  List.foldl_append

theorem SoundFrom.run (h : c.SoundFrom ctx first) (moves : List Move) :
    (c.run ctx moves).SoundFrom ctx first :=
  run_induction (fun _ m h => h.step m) h moves

/-- A process that is looked after is one that the launcher has started. -/
theorem provoke_of_isSteady (h : c.SoundFrom ctx first) (hi : first ≤ i) (hs : ctx.IsSteady) :
    c.provoke ctx i = c := by
  cases ht : c.tasks[i]? with
  | none => simp [provoke, stage?, ht]
  | some t =>
    have hsound := h i t hi ht
    obtain ⟨file, command, stage⟩ := t
    cases stage with
    | spawned p =>
      have hc : p.conduct.cancelled = none := hs _ _ hsound.1
      simp [provoke, stage?, ht, hc]
    | waiting p e =>
      have hc : p.conduct.cancelled = none := hs _ _ hsound.1
      simp [provoke, stage?, ht, hc]
    | queued | cleared | tracked | left | concluding | finished => simp [provoke, stage?, ht]

/-- A cancellation at once is a call, and then moves of its canceller. -/
theorem exists_moves_cancel (ctx : Context) (c : Crew) :
    ∃ n, c.run ctx (.call :: List.replicate n (.cancel c.cancellers.length)) = c.cancel :=
  c.cancels_cancel.exists_moves ctx

/-- What a process provokes comes of moves that drive its task. -/
theorem provoke_drives (h : c.SoundFrom ctx first) (hi : first ≤ i) :
    ∃ moves, c.run ctx moves = c.provoke ctx i ∧ ∀ m ∈ moves, m.Drives ctx i := by
  by_cases hs : ctx.IsSteady
  · exact ⟨[], (provoke_of_isSteady h hi hs).symm, by simp⟩
  · obtain e | e | e := provoke_cases ctx c i
    · exact ⟨[], e.symm, by simp⟩
    · obtain ⟨n, hn⟩ := exists_moves_cancel ctx c
      exact ⟨_, hn.trans e.symm, by simp [Move.Drives, hs]⟩
    · obtain ⟨n, hn⟩ := exists_moves_cancel ctx (c.exit ctx i)
      refine ⟨.exit i :: .call :: List.replicate n (.cancel (c.exit ctx i).cancellers.length),
        ?_, ?_⟩
      · exact hn.trans e.symm
      · simp [Move.Drives, hs]

/-- A task is driven by moves that drive it. -/
theorem driveFor_drives (h : c.SoundFrom ctx first) (hi : first ≤ i) (n : Nat) :
    ∃ moves, c.run ctx moves = driveFor ctx i n c ∧ ∀ m ∈ moves, m.Drives ctx i := by
  induction n generalizing c with
  | zero => exact ⟨[], rfl, by simp⟩
  | succ n ih =>
    obtain ⟨before, hbefore, hdrives⟩ := provoke_drives h hi
    have hsound : ((c.provoke ctx i).work ctx i).SoundFrom ctx first := by
      rw [← hbefore]
      exact (h.run before).step (.work i)
    obtain ⟨after, hafter, hdrives'⟩ := ih hsound
    refine ⟨before ++ .work i :: after, ?_, ?_⟩
    · rw [run_append, hbefore]
      exact hafter
    · intro m hm
      rcases List.mem_append.1 hm with hm | hm
      · exact hdrives m hm
      · rcases List.mem_cons.1 hm with rfl | hm
        · exact ⟨by simp, fun _ => rfl⟩
        · exact hdrives' m hm

/-- **Driving a task is a run of moves**, with no canceller in it if no process provokes one. -/
theorem drive_drives (h : c.SoundFrom ctx first) (hi : first ≤ i) :
    ∃ moves, c.run ctx moves = c.drive ctx i ∧ ∀ m ∈ moves, m.Drives ctx i :=
  driveFor_drives h hi stepLimit

end Crew
end LintRun.Analysis
