import Mathlib
import LintRun.Analysis.Session
import LintRun.Proofs.Analysis.Frame

/-!
# Proofs — Analysis — Demands

What a demand on a series that one job works at does, if no task was at work before.

* `Crew.attempts_drive`: a task that is driven attempts one start, if the flag is down.
* `Series.Follows`: what is left of a series after some starts were attempted for it.
* `Meets`: what a demand that asks for so many sections does. `Demand.meet_meets` is that of every
  demand.
* `Demand.meet_beside`: while the flag is down, nothing that happened before has a say in what a
  demand leads to.
* `Demand.meet_launcher`: how the processes for other files behave has no say in it either.
-/

namespace LintRun

namespace Analysis

variable {ctx : Context} {b : Bool} {c : Crew} {i : Nat} {t : Task}

open Runner (attempts)

/-! ### Starts that are attempted -/

@[simp] theorem attempts_nil : attempts [] = [] := rfl

/-- Starts are attempted one after the other. -/
@[simp] theorem attempts_append (before after : List Effect) :
    attempts (before ++ after) = attempts before ++ attempts after :=
  List.filterMap_append

/-- A task attempts to start its process in one step only. -/
theorem Task.attempts_advance (ctx : Context) (b : Bool) (t : Task) :
    attempts (t.advance ctx b).2 = if t.stage = .cleared then [t.file] else [] := by
  obtain ⟨file, command, stage⟩ := t
  cases stage with
  | queued | cleared | spawned | finished => rfl
  | tracked | concluding => simp only [advance]; split <;> rfl
  | waiting p e =>
    obtain ⟨f, -, h⟩ | ⟨-, -, -, h⟩ | ⟨-, -, h⟩ := advance_waiting_cases ctx b file command p e <;>
      rw [h] <;> rfl
  | left p how => cases how <;> rfl

namespace Crew

@[simp] theorem add_nil (c : Crew) : c.add [] = c := by
  simp [add]

/-- A step attempts the start of a task that is cleared for it, and no other one. -/
theorem attempts_work (ht : c.tasks[i]? = some t) :
    attempts (c.work ctx i).history = attempts c.history ++ if t.stage = .cleared then
      [t.file] else [] := by
  simp only [work, ht]
  exact (attempts_append _ _).trans (congrArg _ (Task.attempts_advance ctx _ t))

@[simp] theorem attempts_kill : attempts (c.kill i).history = attempts c.history := by
  obtain ⟨e, -⟩ | ⟨t, p, -, -, -, e⟩ := kill_cases c i <;> rw [e]
  exact (attempts_append _ _).trans (List.append_nil _)

@[simp] theorem history_exit : (c.exit ctx i).history = c.history := by
  unfold exit; split <;> (try split) <;> rfl

@[simp] theorem attempts_cancel : attempts c.cancel.history = attempts c.history :=
  cancel_induction (P := fun c' => attempts c'.history = attempts c.history)
    (fun _ _ h => attempts_kill.trans h) rfl

@[simp] theorem attempts_provoke : attempts (c.provoke ctx i).history = attempts c.history := by
  obtain h | h | h := provoke_cases ctx c i <;> simp [h]

/-- A task that has no process yet provokes nothing. -/
theorem provoke_of_process? (ht : c.tasks[i]? = some t) (hp : t.stage.process? = none) :
    c.provoke ctx i = c := by
  obtain ⟨file, command, stage⟩ := t
  cases stage <;> simp_all [provoke, stage?, Stage.process?]

/-- Once a task has attempted to start its process, it does so no more. -/
theorem attempts_driveFor {m : Nat} (h : c.ranks[i]? = some m) (hm : m < 7) (n : Nat) :
    attempts (driveFor ctx i n c).history = attempts c.history := by
  induction n generalizing c m with
  | zero => rfl
  | succ n ih =>
    obtain ⟨m', hm', hwork⟩ := ranks_work ctx (c := c.provoke ctx i) (by rwa [ranks_provoke])
    have hlt : i < c.ranks.length := (List.getElem?_eq_some_iff.1 h).1
    obtain ⟨t, ht, hrank⟩ : ∃ t, (c.provoke ctx i).tasks[i]? = some t ∧ t.stage.rank = m := by
      have hprovoke : (c.provoke ctx i).ranks[i]? = some m := by rwa [ranks_provoke]
      simpa [ranks] using hprovoke
    -- a rank below that of the cleared stage is behind the one step that attempts a start
    have hstage : t.stage ≠ .cleared := by
      rintro hs
      rw [hs] at hrank
      simp [Stage.rank] at hrank
      omega
    rw [driveFor, ih (m := m') (by rw [hwork, ranks_provoke, List.getElem?_set_self hlt])
      (by omega), attempts_work ht, if_neg hstage, List.append_nil, attempts_provoke]

/-- **A task that is driven attempts one start**, if the flag is down. -/
theorem attempts_drive (ht : c.tasks[i]? = some t) (hs : t.stage = .queued)
    (hflag : c.cancelled = false) :
    attempts (c.drive ctx i).history = attempts c.history ++ [t.file] := by
  have hlt : i < c.tasks.length := (List.getElem?_eq_some_iff.1 ht).1
  set cleared : Crew := c.setTask i { t with stage := .cleared } with hcleared
  have hfirst : (c.provoke ctx i).work ctx i = cleared := by
    rw [provoke_of_process? ht (by rw [hs]; rfl)]
    simp [work, ht, Task.advance, hs, hflag, hcleared]
  have ht' : cleared.tasks[i]? = some { t with stage := .cleared } := by
    simp [hcleared, setTask, hlt]
  -- the first step clears the task, the second one attempts the start, and no other one does
  have hdrive : c.drive ctx i = driveFor ctx i 6 (cleared.work ctx i) := by
    rw [drive, stepLimit, driveFor, hfirst, driveFor, provoke_of_process? ht' rfl]
  obtain ⟨m', hm', hwork⟩ := ranks_work ctx (ranks_getElem? ht')
  have hrank : (cleared.work ctx i).ranks[i]? = some m' := by
    rw [hwork, List.getElem?_set_self (by simpa [hcleared, setTask] using hlt)]
  have hless : m' < 7 := by
    simp only [Stage.rank] at hm'
    omega
  rw [hdrive, attempts_driveFor hrank hless, attempts_work ht', if_pos rfl]
  rfl

/-! ### Tasks under the raised flag -/

theorem setTask_of_getElem? (ht : c.tasks[i]? = some t) : c.setTask i t = c := by
  obtain ⟨hlt, rfl⟩ := List.getElem?_eq_some_iff.1 ht
  simp [setTask]

/-- A task that is finished takes no step, and provokes nothing. -/
theorem driveFor_of_isFinished (ht : c.tasks[i]? = some t) (hf : t.stage.isFinished = true)
    (n : Nat) :
    driveFor ctx i n c = c := by
  obtain ⟨file, command, stage⟩ := t
  cases stage with
  | finished p result =>
    induction n with
    | zero => rfl
    | succ n ih =>
      have hprovoke : c.provoke ctx i = c := by simp [provoke, stage?, ht]
      have hwork : c.work ctx i = c := by simp [work, ht, Task.advance, setTask_of_getElem? ht]
      rw [driveFor, hprovoke, hwork, ih]
  | _ => cases hf

/-- **Under the raised flag nothing comes of a task**, and no start is attempted. -/
theorem drive_of_cancelled (ht : c.tasks[i]? = some t) (hs : t.stage = .queued)
    (hflag : c.cancelled = true) :
    c.drive ctx i = c.setTask i { t with stage := .finished none .nothing } := by
  have hlt : i < c.tasks.length := (List.getElem?_eq_some_iff.1 ht).1
  have hwork : (c.provoke ctx i).work ctx i =
      c.setTask i { t with stage := .finished none .nothing } := by
    rw [provoke_of_process? ht (by rw [hs]; rfl)]
    simp [work, ht, Task.advance, hs, hflag]
  rw [drive, stepLimit, driveFor, hwork]
  exact driveFor_of_isFinished (t := { t with stage := .finished none .nothing })
    (by simp [setTask, hlt]) rfl 7

end Crew
end Analysis

namespace Runner

open Analysis

variable {r : Runner} {c c' c'' d : Crew} {s s' s'' : Series} {m n : Nat} {tried more : List Path}

/-! ### What is left of a series -/

/-- After the starts that were attempted for it, a series has the files behind them left, or it is
over. -/
structure Series.Follows (s : Series) (tried : List Path) (s' : Series) : Prop where
  database : s'.database = s.database
  checks : s'.checks = s.checks
  parallel : s'.parallel = s.parallel
  inOrder : tried <+: s.files
  left : s'.files = s.files.drop tried.length ∨ s'.files = []

namespace Series.Follows

theorem refl (s : Series) : s.Follows [] s := ⟨rfl, rfl, rfl, List.nil_prefix, .inl rfl⟩

theorem ended (s : Series) : s.Follows [] s.over := ⟨rfl, rfl, rfl, List.nil_prefix, .inr rfl⟩

/-- What is tried first and what is tried later follow the order of the files. -/
theorem append_prefix (h : s.Follows tried s') (hmore : more <+: s'.files) :
    tried ++ more <+: s.files := by
  obtain ⟨rest, hrest⟩ := h.inOrder
  rcases h.left with hleft | hleft
  · rw [hleft, ← hrest, List.drop_left] at hmore
    rw [← hrest]
    exact (List.prefix_append_right_inj tried).2 hmore
  · rw [hleft, List.prefix_nil] at hmore
    simpa [hmore] using h.inOrder

theorem trans (h : s.Follows tried s') (h' : s'.Follows more s'') :
    s.Follows (tried ++ more) s'' := by
  refine ⟨h'.database.trans h.database, h'.checks.trans h.checks, h'.parallel.trans h.parallel,
    h.append_prefix h'.inOrder, ?_⟩
  rcases h'.left with hleft' | hleft'
  · rcases h.left with hleft | hleft
    · exact .inl (by rw [hleft', hleft, List.drop_drop, List.length_append])
    · exact .inr (by rw [hleft', hleft, List.drop_nil])
  · exact .inr hleft'

end Series.Follows

/-! ### What a demand does -/

/-- What a demand that asks for so many sections does to the crew and the series: at most one start
is attempted for each section, in the order of the files, and none under the raised flag. -/
structure Meets (asked : Nat) (c : Crew) (s : Series) (c' : Crew) (s' : Series) : Prop where
  atRest : c'.IsAtRest
  cancelled : c.cancelled = true → c'.cancelled = true
  effects : ∃ effects, c'.history = c.history ++ effects ∧ s.Follows (attempts effects) s' ∧
    (attempts effects).length ≤ asked ∧ (c.cancelled = true → attempts effects = [])

namespace Meets

/-- A demand that attempts no start may have asked for any number of sections. -/
theorem of_follows (hc : c.IsAtRest) (h : s.Follows [] s') : Meets n c s c s' :=
  ⟨hc, id, [], by simp, h, Nat.zero_le _, fun _ => rfl⟩

theorem trans (h : Meets m c s c' s') (h' : Meets n c' s' c'' s'') : Meets (m + n) c s c'' s'' := by
  obtain ⟨e, he, hfollows, hlen, hnone⟩ := h.effects
  obtain ⟨e', he', hfollows', hlen', hnone'⟩ := h'.effects
  refine ⟨h'.atRest, h'.cancelled ∘ h.cancelled, e ++ e', by rw [he', he, List.append_assoc],
    ?_, ?_, fun hc => ?_⟩
  · rw [attempts_append]
    exact hfollows.trans hfollows'
  · rw [attempts_append, List.length_append]
    exact Nat.add_le_add hlen hlen'
  · rw [attempts_append, hnone hc, hnone' (h.cancelled hc), List.append_nil]

end Meets

/-! ### The next section -/

/-- The crew after the task of a file was hired and driven. -/
def hire (r : Runner) (c : Crew) (s : Series) (file : Path) : Crew :=
  (c.enlist [r.task s file]).drive r.context c.tasks.length

/-- With one job, the task of a file is driven when its section is asked for. -/
theorem next_of_cons (hs : s.parallel = false) {file : Path} {rest : List Path}
    (hfiles : s.files = file :: rest) {answer : Outcome (Option Section)}
    (hanswer : r.given ((r.hire c s file).result c.tasks.length) = answer) :
    r.next c s =
      if ends answer then (answer, onInterruption (r.hire c s file) answer, s.over)
      else (answer, r.hire c s file, { s with files := rest }) := by
  subst hanswer
  unfold next
  simp [hfiles, hs, hire]

/-- A task that is hired beside a crew at rest is driven as it is alone. -/
theorem hire_beside (hc : c.IsAtRest) (hflag : c.cancelled = false) (file : Path) :
    r.hire (c.beside d) s file = c.beside (r.hire d s file) := by
  rw [hire, Crew.enlist_beside, Crew.length_tasks_beside, hc.drive_beside hflag, hire]

/-- An interruption beside a crew at rest does what it does alone. -/
theorem onInterruption_beside (hc : c.IsAtRest) (answer : Outcome (Option Section)) :
    onInterruption (c.beside d) answer = c.beside (onInterruption d answer) := by
  simp only [onInterruption]
  split
  · exact hc.cancel_beside
  · rfl

/-- **The next section depends on nothing that happened before**, while the flag is down. -/
theorem next_beside (hc : c.IsAtRest) (hflag : c.cancelled = false) (hs : s.parallel = false) :
    r.next (c.beside d) s = ((r.next d s).1, c.beside (r.next d s).2.1, (r.next d s).2.2) := by
  cases hfiles : s.files with
  | nil => simp [next, hfiles]
  | cons file rest =>
    obtain ⟨answer, hanswer⟩ :
        ∃ answer, r.given ((r.hire d s file).result d.tasks.length) = answer := ⟨_, rfl⟩
    have hbeside : r.given ((r.hire (c.beside d) s file).result (c.beside d).tasks.length) =
        answer := by
      rw [hire_beside hc hflag, Crew.length_tasks_beside, Crew.result_beside, hanswer]
    rw [next_of_cons hs hfiles hanswer, next_of_cons hs hfiles hbeside, hire_beside hc hflag]
    cases ends answer <;> simp [onInterruption_beside hc]

/-- Under the raised flag nothing comes of a task that is hired. -/
theorem hire_of_cancelled (hflag : c.cancelled = true) (file : Path) :
    r.hire c s file = c.enlist [{ r.task s file with stage := .finished none .nothing }] := by
  have hnew : (c.enlist [r.task s file]).tasks[c.tasks.length]? = some (r.task s file) := by simp
  rw [hire, Crew.drive_of_cancelled hnew rfl hflag]
  simp [Crew.setTask, Crew.enlist]

/-- One start is attempted for a task that is hired while the flag is down. -/
theorem hire_effects (hc : c.IsAtRest) (hflag : c.cancelled = false) (file : Path) :
    ∃ effects, (r.hire c s file).history = c.history ++ effects ∧ attempts effects = [file] := by
  -- the effects are those of the same task without a crew
  have hbeside : r.hire c s file = c.beside (r.hire {} s file) := by
    rw [← hire_beside hc hflag, Crew.beside_empty]
  have hnew : (Crew.enlist {} [r.task s file]).tasks[0]? = some (r.task s file) := rfl
  exact ⟨(r.hire {} s file).history, by rw [hbeside, Crew.history_beside],
    Crew.attempts_drive hnew rfl rfl⟩

theorem onInterruption_ok (c : Crew) (answer : Option Section) :
    onInterruption c (.ok answer) = c := by
  simp [onInterruption, isInterruption]

/-- An interruption of a crew at rest leaves nothing behind but the flag. -/
theorem onInterruption_facts (hc : c.IsAtRest) (answer : Outcome (Option Section)) :
    (onInterruption c answer).IsAtRest ∧ (onInterruption c answer).history = c.history := by
  simp only [onInterruption]
  split
  · rw [hc.cancel_eq]
    exact ⟨hc, rfl⟩
  · exact ⟨hc, rfl⟩

variable {file : Path} {rest : List Path}

/-- Under the raised flag the next section costs no start. -/
theorem next_meets_of_cancelled (hc : c.IsAtRest) (hs : s.parallel = false)
    (hfiles : s.files = file :: rest) (hflag : c.cancelled = true) :
    Meets 1 c s (r.next c s).2.1 (r.next c s).2.2 := by
  have hrest : (r.hire c s file).IsAtRest := hc.drive_enlist _
  have hnothing : (r.hire c s file).result c.tasks.length = .nothing := by
    simp [hire_of_cancelled hflag, Crew.result, Crew.result?, Crew.stage?, Stage.result?]
  have hanswer : r.given ((r.hire c s file).result c.tasks.length) = .ok none := by
    rw [hnothing, given]
  have hcancelled : (r.hire c s file).cancelled = true := by
    rw [hire_of_cancelled hflag, Crew.cancelled_enlist, hflag]
  have hhistory : (r.hire c s file).history = c.history ++ [] := by
    simp [hire_of_cancelled hflag, Crew.enlist]
  have hmeets : Meets 1 c s (r.hire c s file) s.over :=
    ⟨hrest, fun _ => hcancelled, [], hhistory, .ended s, Nat.zero_le _, fun _ => rfl⟩
  simpa [next_of_cons hs hfiles hanswer, ends, onInterruption_ok] using hmeets

/-- While the flag is down the next section costs one start at most. -/
theorem next_meets_of_not_cancelled (hc : c.IsAtRest) (hs : s.parallel = false)
    (hfiles : s.files = file :: rest) (hflag : c.cancelled = false) :
    Meets 1 c s (r.next c s).2.1 (r.next c s).2.2 := by
  have hrest : (r.hire c s file).IsAtRest := hc.drive_enlist _
  obtain ⟨effects, hhistory, hattempts⟩ := hire_effects (r := r) (s := s) hc hflag file
  have hmeets (c' : Crew) (s' : Series) (hc' : c'.IsAtRest)
    (hsame : c'.history = (r.hire c s file).history)
      (hs' : s' = s.over ∨ s' = { s with files := rest }) : Meets 1 c s c' s' := by
    refine ⟨hc', by simp [hflag], effects, hsame.trans hhistory, ?_, by simp [hattempts],
      by simp [hflag]⟩
    rw [hattempts]
    rcases hs' with rfl | rfl
    · exact ⟨rfl, rfl, rfl, by simp [hfiles], .inr rfl⟩
    · exact ⟨rfl, rfl, rfl, by simp [hfiles], .inl (by simp [hfiles])⟩
  obtain ⟨answer, hanswer⟩ : ∃ answer, r.given ((r.hire c s file).result c.tasks.length) = answer :=
    ⟨_, rfl⟩
  obtain ⟨hrest', hhistory'⟩ := onInterruption_facts hrest answer
  rw [next_of_cons hs hfiles hanswer]
  cases h : ends answer with
  | true => simpa [h] using hmeets _ s.over hrest' hhistory' (.inl rfl)
  | false => simpa [h] using hmeets _ { s with files := rest } hrest rfl (.inr rfl)

/-- **What the next section costs**: one start at most. -/
theorem next_meets (hc : c.IsAtRest) (hs : s.parallel = false) :
    Meets 1 c s (r.next c s).2.1 (r.next c s).2.2 := by
  cases hfiles : s.files with
  | nil => simpa [next, hfiles] using Meets.of_follows hc (.ended s)
  | cons file rest =>
    cases hflag : c.cancelled with
    | true => exact next_meets_of_cancelled hc hs hfiles hflag
    | false => exact next_meets_of_not_cancelled hc hs hfiles hflag

/-! ### All sections that are left -/

theorem Meets.parallel (h : Meets n c s c' s') : s'.parallel = s.parallel := by
  obtain ⟨_, -, hfollows, -⟩ := h.effects
  exact hfollows.parallel

/-- All sections together cost as many starts as they are, and one more at most. -/
theorem allFrom_meets (n : Nat) (hc : c.IsAtRest) (hs : s.parallel = false) :
    Meets ((r.allFrom n c s).1.length + 1) c s (r.allFrom n c s).2.2.1 (r.allFrom n c s).2.2.2 := by
  induction n generalizing c s with
  | zero => exact .of_follows hc (.refl s)
  | succ n ih =>
    have hnext := next_meets (r := r) hc hs
    rcases hanswer : r.next c s with ⟨f | (_ | given), c', s'⟩
    · simpa [allFrom, hanswer] using hnext
    · simpa [allFrom, hanswer] using hnext
    · rw [hanswer] at hnext
      simpa [allFrom, hanswer, Nat.add_comm] using hnext.trans
        (ih hnext.atRest (hnext.parallel.trans hs))

/-- All sections beside a crew at rest are those that there are alone. -/
theorem allFrom_beside (n : Nat) (hc : c.IsAtRest) (hflag : c.cancelled = false) (hd : d.IsAtRest)
    (hs : s.parallel = false) :
    r.allFrom n (c.beside d) s =
      ((r.allFrom n d s).1, (r.allFrom n d s).2.1, c.beside (r.allFrom n d s).2.2.1,
        (r.allFrom n d s).2.2.2) := by
  induction n generalizing d s with
  | zero => rfl
  | succ n ih =>
    have hnext := next_meets (r := r) hd hs
    rcases hanswer : r.next d s with ⟨f | (_ | given), d', s'⟩
    · simp [allFrom, hanswer, next_beside hc hflag hs]
    · simp [allFrom, hanswer, next_beside hc hflag hs]
    · rw [hanswer] at hnext
      simp [allFrom, hanswer, next_beside hc hflag hs, ih hnext.atRest (hnext.parallel.trans hs)]

/-! ### Demands -/

theorem close_of_sequential (hs : s.parallel = false) : Runner.close c s = (c, s.over) := by
  rw [Runner.close, hs]
  cases s.place <;> rfl

/-- **What a demand does.** -/
theorem Demand.meet_meets (hc : c.IsAtRest) (hs : s.parallel = false) (demand : Demand) :
    let met := demand.meet r c s
    Meets met.1.asked c s met.2.1 met.2.2 := by
  cases demand with
  | next => exact next_meets hc hs
  | all => exact allFrom_meets (s.files.length + 1) hc hs
  | close =>
    rw [Demand.meet, close_of_sequential hs]
    exact .of_follows hc (.ended s)

/-- **While the flag is down, nothing that happened before has a say in what a demand leads to.** -/
theorem Demand.meet_beside (hc : c.IsAtRest) (hflag : c.cancelled = false) (hs : s.parallel = false)
    (demand : Demand) :
    demand.meet r c s =
      ((demand.meet r {} s).1, c.beside (demand.meet r {} s).2.1, (demand.meet r {} s).2.2) := by
  have hempty : Crew.IsAtRest {} := by simp [Crew.IsAtRest]
  cases demand with
  | next =>
    have h := next_beside (r := r) (d := {}) hc hflag hs
    rw [Crew.beside_empty] at h
    simp only [meet, h]
  | all =>
    have h := allFrom_beside (r := r) (s.files.length + 1) hc hflag hempty hs
    rw [Crew.beside_empty] at h
    simp only [meet, Runner.all, h]
  | close =>
    simp only [meet, close_of_sequential hs, Crew.beside_empty]

/-! ### What a demand heeds -/

/-- Launchers that treat all files of a series alike treat those alike that are left. -/
theorem Series.Follows.treatedAlike (h : s.Follows tried s') {l l' : Launcher}
    (hl : s.TreatedAlike r l l') :
    s'.TreatedAlike r l l' := by
  intro file hfile
  rw [h.database, h.checks]
  refine hl file ?_
  rcases h.left with hleft | hleft
  · exact List.mem_of_mem_drop (hleft ▸ hfile)
  · exact absurd hfile (by simp [hleft])

variable {l : Launcher}

theorem given_launcher (result : Result) :
    ({ r with launcher := l } : Runner).given result = r.given result := by
  cases result <;> rfl

/-- A task is driven alike under launchers that treat its file alike. -/
theorem hire_launcher (hl : s.TreatedAlike r l r.launcher) {file : Path} (hfile : file ∈ s.files) :
    ({ r with launcher := l } : Runner).hire c s file = r.hire c s file := by
  refine (Crew.drive_launcher fun command hcommand => ?_ :
    _ = (c.enlist [r.task s file]).drive r.context c.tasks.length)
  obtain rfl : r.command s.database s.checks file = command := by
    simpa [Crew.commands, task, Runner.command] using hcommand
  exact hl file hfile

/-- The next section is the same under launchers that treat all files alike. -/
theorem next_launcher (hl : s.TreatedAlike r l r.launcher) (hs : s.parallel = false) :
    ({ r with launcher := l } : Runner).next c s = r.next c s := by
  cases hfiles : s.files with
  | nil => simp [next, hfiles]
  | cons file rest =>
    have hhire : ({ r with launcher := l } : Runner).hire c s file = r.hire c s file :=
      hire_launcher hl (by simp [hfiles])
    obtain ⟨answer, hanswer⟩ :
        ∃ answer, r.given ((r.hire c s file).result c.tasks.length) = answer := ⟨_, rfl⟩
    have hanswer' : ({ r with launcher := l } : Runner).given
        ((({ r with launcher := l } : Runner).hire c s file).result c.tasks.length) = answer := by
      rw [hhire, given_launcher, hanswer]
    rw [next_of_cons hs hfiles hanswer, next_of_cons hs hfiles hanswer', hhire]

/-- All sections are the same under launchers that treat all files alike. -/
theorem allFrom_launcher (n : Nat) (hl : s.TreatedAlike r l r.launcher) (hc : c.IsAtRest)
    (hs : s.parallel = false) :
    ({ r with launcher := l } : Runner).allFrom n c s = r.allFrom n c s := by
  induction n generalizing c s with
  | zero => rfl
  | succ n ih =>
    have hnext := next_meets (r := r) hc hs
    rcases hanswer : r.next c s with ⟨f | (_ | given), c', s'⟩
    · simp [allFrom, next_launcher hl hs, hanswer]
    · simp [allFrom, next_launcher hl hs, hanswer]
    · rw [hanswer] at hnext
      obtain ⟨_, -, hfollows, -⟩ := hnext.effects
      simp [allFrom, next_launcher hl hs, hanswer,
        ih (hfollows.treatedAlike hl) hnext.atRest (hfollows.parallel.trans hs)]

/-- **All that a demand heeds of a launcher is how the processes for the files of its series
behave.** -/
theorem Demand.meet_launcher (hl : s.TreatedAlike r l r.launcher) (hc : c.IsAtRest)
    (hs : s.parallel = false) (demand : Demand) :
    demand.meet { r with launcher := l } c s = demand.meet r c s := by
  cases demand with
  | next => simp only [meet, next_launcher hl hs]
  | all => simp only [meet, Runner.all, allFrom_launcher _ hl hc hs]
  | close => rfl

end Runner
end LintRun
