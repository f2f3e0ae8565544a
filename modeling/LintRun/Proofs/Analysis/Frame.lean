import Mathlib
import LintRun.Proofs.Analysis.Drive

/-!
# Proofs — Analysis — Frames

What is done with a task leaves alone whatever happened before.

* `Crew.IsAtRest`: no task is at work.
* `Crew.beside`: one crew, and another one that was hired after it.
* `Crew.drive_beside`: a task that is driven beside a crew at rest takes the steps that it takes
  alone.
* `Crew.drive_launcher`: all that a task heeds of a launcher is what comes of its own command.
-/

namespace LintRun.Analysis.Crew

variable {ctx : Context} {c d : Crew} {i : Nat} {t t' : Task} {l : Launcher}

/-! ### Crews at rest -/

/-- Every task is finished. -/
def IsAtRest (c : Crew) : Prop := ∀ t ∈ c.tasks, t.stage.isFinished = true

/-- At rest no task has a step left. -/
theorem isAtRest_iff : c.IsAtRest ↔ ∀ n ∈ c.ranks, n = 0 := by
  simp [IsAtRest, ranks, Stage.rank_eq_zero_iff]

/-- Whether a crew is at rest depends on nothing but the steps that are left. -/
theorem IsAtRest.of_ranks (h : c.IsAtRest) (hd : d.ranks = c.ranks) : d.IsAtRest := by
  rw [isAtRest_iff] at h ⊢
  rwa [hd]

theorem IsAtRest.cancel (h : c.IsAtRest) : c.cancel.IsAtRest := h.of_ranks ranks_cancel

/-- The process of a finished task is not kept track of. -/
theorem isTracked_of_isFinished {s : Stage} (h : s.isFinished = true) : s.isTracked = false := by
  cases s <;> simp_all [Stage.isFinished, Stage.result?, Stage.isTracked]

/-- Nobody at rest keeps track of a process. -/
theorem IsAtRest.tracked (h : c.IsAtRest) : c.tracked = [] := by
  refine List.filter_eq_nil_iff.2 fun i _ hi => ?_
  obtain ⟨s, hs, htracked⟩ := (Option.any_eq_true _ _).1 hi
  obtain ⟨t, ht, rfl⟩ := stage?_eq_some_iff.1 hs
  rw [isTracked_of_isFinished (h t (List.mem_of_getElem? ht))] at htracked
  cases htracked

/-- Whoever cancels a crew at rest raises the flag, and finds nothing to kill. -/
theorem IsAtRest.cancel_eq (h : c.IsAtRest) :
    c.cancel = { c with cancellers := c.cancellers ++ [.killing []] } := by
  rw [Crew.cancel, h.tracked]
  rfl

/-- A task that is hired by a crew at rest, and driven, leaves a crew at rest. -/
theorem IsAtRest.drive_enlist (h : c.IsAtRest) (t : Task) :
    ((c.enlist [t]).drive ctx c.tasks.length).IsAtRest := by
  rw [isAtRest_iff] at h ⊢
  have hlast : c.ranks.length = c.tasks.length := c.length_ranks
  rw [ranks_drive (by simp), ranks_enlist, List.set_append_right _ _ hlast.le, hlast, Nat.sub_self]
  simpa [or_imp, forall_and] using h

/-! ### Side by side -/

/-- One crew, and another one that was hired after it. -/
def beside (c d : Crew) : Crew :=
  { tasks := c.tasks ++ d.tasks, cancellers := c.cancellers ++ d.cancellers,
    history := c.history ++ d.history }

/-- Beside nobody a crew is itself. -/
@[simp] theorem beside_empty (c : Crew) : c.beside {} = c := by
  simp [beside]

@[simp] theorem length_tasks_beside : (c.beside d).tasks.length = c.tasks.length + d.tasks.length :=
  List.length_append

@[simp] theorem history_beside : (c.beside d).history = c.history ++ d.history := rfl

@[simp] theorem cancelled_beside : (c.beside d).cancelled = (c.cancelled || d.cancelled) :=
  List.any_append

/-- The tasks of the second crew come behind those of the first one. -/
@[simp] theorem getElem?_beside : (c.beside d).tasks[c.tasks.length + i]? = d.tasks[i]? := by
  rw [Crew.beside, List.getElem?_append_right (Nat.le_add_right _ _), Nat.add_sub_cancel_left]

@[simp] theorem stage?_beside : (c.beside d).stage? (c.tasks.length + i) = d.stage? i := by
  simp [stage?]

/-- The second crew has the results that it has alone. -/
@[simp] theorem result_beside : (c.beside d).result (c.tasks.length + i) = d.result i := by
  simp [result, result?]

theorem enlist_beside (ts : List Task) : (c.beside d).enlist ts = c.beside (d.enlist ts) := by
  simp [Crew.beside, enlist]

theorem setTask_beside :
    (c.beside d).setTask (c.tasks.length + i) t = c.beside (d.setTask i t) := by
  simp [Crew.beside, setTask, List.set_append_right]

theorem add_beside (effects : List Effect) :
    (c.beside d).add effects = c.beside (d.add effects) := by
  simp [Crew.beside, add]

/-! ### The steps of a task beside a crew -/

/-- A step of a task in the second crew is the step that it takes alone, unless the first crew is
cancelled. -/
theorem work_beside (hc : c.cancelled = false) :
    (c.beside d).work ctx (c.tasks.length + i) = c.beside (d.work ctx i) := by
  simp only [work, getElem?_beside, cancelled_beside, hc, Bool.false_or]
  cases d.tasks[i]? with
  | none => rfl
  | some t => simp only [setTask_beside, add_beside]

/-- A process exits in the second crew as it does alone. -/
theorem exit_beside : (c.beside d).exit ctx (c.tasks.length + i) = c.beside (d.exit ctx i) := by
  simp only [exit, getElem?_beside]
  cases d.tasks[i]? with
  | none => rfl
  | some t =>
    simp only
    split
    · exact setTask_beside
    · rfl

/-- A kill in the second crew is the kill that it is alone. -/
theorem kill_beside : (c.beside d).kill (c.tasks.length + i) = c.beside (d.kill i) := by
  simp only [kill, getElem?_beside]
  cases d.tasks[i]? with
  | none => rfl
  | some t =>
    simp only
    cases t.stage.process? with
    | none => rfl
    | some p =>
      simp only
      split
      · rfl
      · rw [setTask_beside, add_beside]

theorem foldl_kill_beside (targets : List Nat) :
    (targets.map (c.tasks.length + ·)).foldl kill (c.beside d) =
      c.beside (targets.foldl kill d) := by
  induction targets generalizing d with
  | nil => rfl
  | cons i rest ih => rw [List.map_cons, List.foldl_cons, kill_beside, ih, List.foldl_cons]

/-- Whoever looks finds the processes of the crew that is at work. -/
theorem IsAtRest.tracked_beside (hc : c.IsAtRest) :
    (c.beside d).tracked = d.tracked.map (c.tasks.length + ·) := by
  have hbefore : ((List.range c.tasks.length).filter
      fun i => ((c.beside d).stage? i).any Stage.isTracked) = [] := by
    rw [← hc.tracked, Crew.tracked]
    refine List.filter_congr fun i hi => ?_
    simp [stage?, Crew.beside, List.getElem?_append_left (List.mem_range.1 hi)]
  have hafter : ((fun i => ((c.beside d).stage? i).any Stage.isTracked) ∘ (c.tasks.length + ·)) =
      fun i => (d.stage? i).any Stage.isTracked := by
    funext i
    simp
  rw [Crew.tracked, length_tasks_beside, List.range_add, List.filter_append, hbefore,
    List.nil_append, List.filter_map, hafter, Crew.tracked]

/-- A cancellation beside a crew at rest kills what it kills without it. -/
theorem IsAtRest.cancel_beside (hc : c.IsAtRest) : (c.beside d).cancel = c.beside d.cancel := by
  have hnew : ({ c.beside d with cancellers := (c.beside d).cancellers ++ [.killing []] } : Crew) =
      c.beside { d with cancellers := d.cancellers ++ [.killing []] } := by
    simp [Crew.beside]
  rw [Crew.cancel, hnew, hc.tracked_beside, foldl_kill_beside, Crew.cancel]

/-- What a process of the second crew provokes beside a crew at rest, it provokes alone. -/
theorem IsAtRest.provoke_beside (hc : c.IsAtRest) :
    (c.beside d).provoke ctx (c.tasks.length + i) = c.beside (d.provoke ctx i) := by
  simp only [provoke, stage?_beside, exit_beside, hc.cancel_beside]
  split
  · split <;> rfl
  · split <;> (try split) <;> rfl
  · rfl

/-- **A task that is driven beside a crew at rest takes the steps that it takes alone**, while the
flag is down. -/
theorem IsAtRest.drive_beside (hc : c.IsAtRest) (hflag : c.cancelled = false) :
    (c.beside d).drive ctx (c.tasks.length + i) = c.beside (d.drive ctx i) := by
  have hdrive (n : Nat) (d : Crew) :
      driveFor ctx (c.tasks.length + i) n (c.beside d) = c.beside (driveFor ctx i n d) := by
    induction n generalizing d with
    | zero => rfl
    | succ n ih => rw [driveFor, hc.provoke_beside, work_beside hflag, ih, driveFor]
  exact hdrive stepLimit d

/-! ### What a task heeds -/

/-- The commands of all tasks. Nothing that happens changes them. -/
def commands (c : Crew) : List (List String) := c.tasks.map Task.command

/-- A task that changes keeps its command, so that the crew has the commands that it had. -/
theorem commands_setTask (ht : c.tasks[i]? = some t) (h : t'.command = t.command) :
    (c.setTask i t').commands = c.commands := by
  have hcommand : (c.tasks.map Task.command)[i]? = some t'.command := by simp [ht, h]
  obtain ⟨hlt, hcommand⟩ := List.getElem?_eq_some_iff.1 hcommand
  rw [commands, setTask, List.map_set, ← hcommand, List.set_getElem_self, commands]

@[simp] theorem commands_work : (c.work ctx i).commands = c.commands := by
  unfold work
  split
  · rfl
  · exact commands_setTask ‹_› (Task.command_advance _)

@[simp] theorem commands_kill : (c.kill i).commands = c.commands := by
  obtain ⟨h, -⟩ | ⟨t, p, ht, -, -, h⟩ := kill_cases c i <;> rw [h]
  exact commands_setTask ht rfl

@[simp] theorem commands_exit : (c.exit ctx i).commands = c.commands := by
  simp only [exit]
  cases ht : c.tasks[i]? with
  | none => rfl
  | some t =>
    simp only
    split
    · exact commands_setTask ht rfl
    · rfl

@[simp] theorem commands_cancel : c.cancel.commands = c.commands :=
  cancel_induction (P := fun c' => c'.commands = c.commands)
    (fun _ _ h => commands_kill.trans h) rfl

@[simp] theorem commands_provoke : (c.provoke ctx i).commands = c.commands := by
  obtain h | h | h := provoke_cases ctx c i <;> simp [h]

/-- What two launchers have in common: what comes of a command. -/
def AgreeOn (ctx : Context) (l : Launcher) (command : List String) : Prop :=
  l ctx.timeout command ctx.environment = ctx.launcher ctx.timeout command ctx.environment

/-- A step heeds nothing of a launcher but what comes of its own command. -/
theorem advance_launcher (b : Bool) (h : AgreeOn ctx l t.command) :
    t.advance { ctx with launcher := l } b = t.advance ctx b := by
  obtain ⟨file, command, stage⟩ := t
  cases stage with
  | cleared =>
    rw [AgreeOn] at h
    simp only [Task.advance, h]
    rfl
  | left p how => cases how <;> rfl
  | _ => rfl

theorem work_launcher (h : ∀ command, c.commands[i]? = some command → AgreeOn ctx l command) :
    c.work { ctx with launcher := l } i = c.work ctx i := by
  unfold work
  split
  · rfl
  · rename_i t ht
    rw [advance_launcher _ (h t.command (by simp [commands, ht]))]

/-- **All that a task heeds of a launcher is what comes of its own command.** -/
theorem drive_launcher (h : ∀ command, c.commands[i]? = some command → AgreeOn ctx l command) :
    c.drive { ctx with launcher := l } i = c.drive ctx i := by
  have hdrive (n : Nat) (c : Crew) (h : ∀ command, c.commands[i]? = some command →
    AgreeOn ctx l command) :
      driveFor { ctx with launcher := l } i n c = driveFor ctx i n c := by
    induction n generalizing c with
    | zero => rfl
    | succ n ih =>
      have hprovoke : c.provoke { ctx with launcher := l } i = c.provoke ctx i := rfl
      rw [driveFor, hprovoke, work_launcher (by simpa using h), ih _ (by simpa using h), driveFor]
  exact hdrive stepLimit c h

end LintRun.Analysis.Crew
