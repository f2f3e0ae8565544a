import Mathlib
import LintRun.Proofs.Analysis.Session

/-!
# Proofs — Analysis — References

What one job at a time makes of a list of files, told file by file: the section of each file, and
what is done for it, follow from how its own process behaves.

* `Behaviour`, `Job.reference`, `Job.deeds`: how the process of a file may behave, the section that
  this leads to, and what is left behind for it.
* `Task.Works`, `Job.works`: the steps of a task that nobody disturbs, and those of a job from
  beginning to end.
* `next_of_job`: the next section of a series is that of its first job, or the failure that it ends
  with.
* `allUnder`: all sections of a series, while the launcher may change from one to the next.
* `sequential_run_matches_reference_until_fault`: the sections, the failure and the deeds of a whole
  series, up to the first process that nobody can wait for.

A task that nobody disturbs passes through its stages by itself: at most eight steps, whichever way
its process behaves (`Job.works`). A crew that drives only this task makes the same steps
(`Crew.driveFor_of_works`), so a job adds its section and its deeds to what the jobs before it have
left, or its failure ends the series (`Job.failure?`), and the series is an induction on the jobs.
-/

namespace LintRun

namespace Analysis

/-! ### The steps of a task that nobody disturbs -/

namespace Task

/-- Nobody cancels because of how the process of a task gets on. -/
def IsQuiet (t : Task) : Prop := ∀ p, t.stage.process? = some p → p.conduct.cancelled = none

/-- So many steps of a task under the lowered flag, none of which makes anybody cancel, and what
they leave behind. -/
inductive Works (ctx : Context) : Nat → Task → List Effect → Task → Prop where
  | rest (t : Task) : Works ctx 0 t [] t
  | step {n : Nat} {t t' t'' : Task} {e e' : List Effect} (hq : t.IsQuiet)
      (h : t.advance ctx false = (t', e))
      (hrest : Works ctx n t' e' t'') : Works ctx (n + 1) t (e ++ e') t''

namespace Works

variable {ctx : Context} {m n : Nat} {t t' t'' : Task} {e e' : List Effect}

theorem trans (h : Works ctx m t e t') (h' : Works ctx n t' e' t'') :
    Works ctx (m + n) t (e ++ e') t'' := by
  induction h with
  | rest t => rwa [Nat.zero_add]
  | step hq hstep _ ih =>
    rw [Nat.add_right_comm, List.append_assoc]
    exact .step hq hstep (ih h')

/-- One step of a task that has no process yet. -/
theorem bare (hp : t.stage.process? = none) (h : t.advance ctx false = (t', e)) :
    Works ctx 1 t e t' := by
  have hquiet : t.IsQuiet := fun p hp' => by rw [hp] at hp'; cases hp'
  simpa using Works.step hquiet h (.rest t')

/-- One step of a task whose process makes nobody cancel. -/
theorem manned {p : Process} (hp : t.stage.process? = some p) (hquiet : p.conduct.cancelled = none)
    (h : t.advance ctx false = (t', e)) : Works ctx 1 t e t' := by
  have hquiet : t.IsQuiet := fun p' hp' => by
    obtain rfl : p = p' := Option.some.inj (hp.symm.trans hp')
    exact hquiet
  simpa using Works.step hquiet h (.rest t')

end Works

variable {ctx : Context} {t : Task} {p : Process} {c : Conduct}

/-- A process that does not start leaves a section behind at once. -/
theorem works_of_refused {f : SystemFault} (hs : t.stage = .queued)
    (hl : ctx.launcher ctx.timeout t.command ctx.environment = .refused f) :
    Works ctx 2 t [.spawned t.file t.command]
      { t with stage := .finished none (.completed (unstarted ctx t.file f)) } := by
  have hclear : t.advance ctx false = ({ t with stage := .cleared }, []) := by simp [advance, hs]
  exact (Works.bare (by rw [hs]; rfl) hclear).trans (.bare rfl (by simp [advance, hl]))

/-- A process that starts is kept track of. -/
theorem works_start (hs : t.stage = .queued)
    (hl : ctx.launcher ctx.timeout t.command ctx.environment = .process c)
    (hc : c.cancelled = none) :
    Works ctx 3 t [.spawned t.file t.command] { t with stage := .tracked { conduct := c } } := by
  have hclear : t.advance ctx false = ({ t with stage := .cleared }, []) := by simp [advance, hs]
  have hspawn : ({ t with stage := .cleared } : Task).advance ctx false =
      ({ t with stage := .spawned { conduct := c } }, [.spawned t.file t.command]) := by
    simp [advance, hl]
  exact ((Works.bare (by rw [hs]; rfl) hclear).trans (.bare rfl hspawn)).trans (.manned rfl hc rfl)

/-- The first wait for a process that is kept track of begins. -/
theorem works_track (hs : t.stage = .tracked p) (hc : p.conduct.cancelled = none) :
    Works ctx 1 t [] { t with stage := .waiting p false } :=
  .manned (by rw [hs]; rfl) hc (by simp [advance, hs])

/-- A process that ends within its time is waited for once. -/
theorem works_wait (hs : t.stage = .tracked p) (hc : p.conduct.cancelled = none)
    (hr : p.conduct.raises? false = none) (he : expires ctx p = false) :
    Works ctx 2 t [] { t with stage := .left p.exit (.ended false) } :=
  (works_track hs hc).trans (.manned rfl hc (by simp [advance, hr, he]))

/-- A process that runs out of time is killed, and waited for once more. -/
theorem works_expire (hs : t.stage = .tracked p) (hc : p.conduct.cancelled = none)
    (hr : p.conduct.raises? false = none) (hr' : p.conduct.raises? true = none)
    (he : expires ctx p = true) :
    Works ctx 3 t [.killed t.file]
      { t with stage := .left (p.kill .expiry).exit (.ended true) } := by
  have hkill : ({ t with stage := .waiting p false } : Task).advance ctx false =
      ({ t with stage := .waiting (p.kill .expiry) true }, [.killed t.file]) := by
    simp [advance, hr, he]
  exact ((works_track hs hc).trans (.manned rfl hc hkill)).trans
    (.manned rfl hc (by simp [advance, hr']))

/-- A wait that raises a fault ends the task, and leaves the process alone. -/
theorem works_raise {f : Fault} (hs : t.stage = .tracked p) (hc : p.conduct.cancelled = none)
    (hr : p.conduct.raises? false = some f) :
    Works ctx 3 t [] { t with stage := .finished (some p) (.raised f) } := by
  have hleave : ({ t with stage := .waiting p false } : Task).advance ctx false =
      ({ t with stage := .left p (.raised f) }, []) := by
    simp [advance, hr]
  exact ((works_track hs hc).trans (.manned rfl hc hleave)).trans (.manned rfl hc rfl)

/-- What is left when a process has ended. -/
theorem works_conclude {expired : Bool} (hs : t.stage = .left p (.ended expired))
    (hc : p.conduct.cancelled = none) :
    Works ctx 2 t [.noted (.fileFinished t.file p.status)]
      { t with stage := .finished (some p) (.completed (concluded ctx t.file p expired)) } := by
  have hleave : t.advance ctx false = ({ t with stage := .concluding p expired }, []) := by
    simp [advance, hs]
  exact (Works.manned (by rw [hs]; rfl) hc hleave).trans (.manned rfl hc (by simp [advance]))

end Task

namespace Crew

variable {ctx : Context} {c : Crew} {i n m : Nat} {t t' : Task} {e : List Effect}

/-- A quiet task provokes nothing. -/
theorem provoke_of_isQuiet (ht : c.tasks[i]? = some t) (hq : t.IsQuiet) : c.provoke ctx i = c := by
  obtain ⟨file, command, stage⟩ := t
  cases stage with
  | spawned p | waiting p =>
    have hp : p.conduct.cancelled = none := hq p rfl
    simp [provoke, stage?, ht, hp]
  | _ => simp [provoke, stage?, ht]

theorem add_add (c : Crew) (e e' : List Effect) : (c.add e).add e' = c.add (e ++ e') := by
  simp [add, List.append_assoc]

theorem setTask_add_setTask (c : Crew) (i : Nat) (t t' : Task) (e : List Effect) :
    ((c.setTask i t).add e).setTask i t' = (c.setTask i t').add e := by
  simp [setTask, add]

/-- **A crew drives a task that nobody disturbs as the task works by itself.** -/
theorem driveFor_of_works (hw : Task.Works ctx n t e t') (ht : c.tasks[i]? = some t)
    (hflag : c.cancelled = false) (m : Nat) :
    driveFor ctx i (n + m) c = driveFor ctx i m ((c.setTask i t').add e) := by
  induction hw generalizing c with
  | rest t => rw [Nat.zero_add, setTask_of_getElem? ht, add_nil]
  | @step n t t₁ t' e e' hq hstep hrest ih =>
    have hlt : i < c.tasks.length := (List.getElem?_eq_some_iff.1 ht).1
    have hwork : (c.provoke ctx i).work ctx i = (c.setTask i t₁).add e := by
      rw [provoke_of_isQuiet ht hq]
      simp [work, ht, hflag, hstep]
    have ht₁ : ((c.setTask i t₁).add e).tasks[i]? = some t₁ := by simp [setTask, hlt]
    rw [Nat.add_right_comm, driveFor, hwork, ih ht₁ (by simpa using hflag), setTask_add_setTask,
      add_add]

/-- A task that comes to its end within the limit is finished when it was driven. -/
theorem drive_of_works (hw : Task.Works ctx n t e t') (hn : n ≤ stepLimit)
    (hf : t'.stage.isFinished = true) (ht : c.tasks[i]? = some t) (hflag : c.cancelled = false) :
    c.drive ctx i = (c.setTask i t').add e := by
  have hlt : i < c.tasks.length := (List.getElem?_eq_some_iff.1 ht).1
  have ht' : ((c.setTask i t').add e).tasks[i]? = some t' := by simp [setTask, hlt]
  obtain ⟨m, hm⟩ := Nat.exists_eq_add_of_le hn
  rw [drive, hm, driveFor_of_works hw ht hflag, driveFor_of_isFinished ht' hf]

end Crew
end Analysis

namespace Runner

open Analysis

/-! ### How the process of a file behaves, and what that leads to -/

/-- How the process of a file behaves while nobody interrupts or cancels: it cannot be started; or
it prints something and ends with a code, which is negative after a signal, unless it outlasts its
time and is killed. The kill may come too late to change how it ends. With a fault nobody can wait
for it. -/
inductive Behaviour
  | refused (f : SystemFault)
  | runs (output : Option String) (code : Int) (hangs survives : Bool) (fault : Option WaitFault)
  deriving DecidableEq, Repr

namespace Behaviour

def start : Behaviour → Start
  | .refused f => .refused f
  | .runs output code hangs survives fault =>
    .process { output, code, hangs, survives, waitFault := fault }

/-- Why nobody can wait for the process. -/
def fault : Behaviour → Option WaitFault
  | .refused _ => none
  | .runs _ _ _ _ fault => fault

/-- Whether the process runs out of the time that it is given. -/
def timesOut (limit : Option Binary64) : Behaviour → Bool
  | .refused _ => false
  | .runs _ _ hangs _ _ => hangs && limit.isSome

/-- What the process has printed. -/
def output : Behaviour → String
  | .refused _ => ""
  | .runs output _ _ _ _ => output.getD ""

/-- The status of the process, if there was one. -/
def status (limit : Option Binary64) : Behaviour → Option Int
  | .refused _ => none
  | .runs _ code hangs survives _ => some (if hangs && limit.isSome && !survives then -9 else code)

/-- What is wrong with a file: its analyzer did not start, ran out of time, or was ended by a
signal, in this order. -/
def cause (r : Runner) : Behaviour → Option AnalyzerCause
  | .refused f => some (.notStarted r.analyzer f)
  | .runs _ code hangs _ _ =>
    match hangs, r.timeout with
    | true, some limit => some (.timedOut r.analyzer limit)
    | _, _ => if code < 0 then some (.terminated r.analyzer (-code)) else none

end Behaviour

/-- A file, and how its process behaves. -/
structure Job where
  file : Path
  behaviour : Behaviour
  deriving DecidableEq, Repr

namespace Job

/-- The section of a file, as its own process alone determines it. -/
def reference (r : Runner) (j : Job) : Section :=
  { file := j.file
    output := j.behaviour.output
    status := j.behaviour.status r.timeout
    error := (j.behaviour.cause r).map fun cause => ⟨j.file.text, cause⟩ }

/-- What comes of a file: its section, unless nobody can wait for its process. -/
def result (r : Runner) (j : Job) : Result :=
  match j.behaviour.fault with
  | some f => .raised (.wait f)
  | none => .completed (j.reference r)

/-- What is left behind for a file: the start of its process, and unless nobody can wait for it, the
kill of one that ran out of time, and a note on how it ended. -/
def deeds (r : Runner) (database : Path) (checks : String) (j : Job) : List Effect :=
  .spawned j.file (r.command database checks j.file) ::
    match j.behaviour.fault with
    | some _ => []
    | none =>
      (if j.behaviour.timesOut r.timeout then [.killed j.file] else []) ++
        (j.behaviour.status r.timeout).toList.map fun status => .noted (.fileFinished j.file status)

/-- Under the launcher of a runner, the process of a file behaves so. -/
def Befits (r : Runner) (database : Path) (checks : String) (l : Launcher) (j : Job) : Prop :=
  l r.timeout (r.command database checks j.file) r.environment = j.behaviour.start

end Job

variable {r : Runner} {c : Crew} {s : Series} {j : Job} {l : Launcher}

/-! ### One job -/

namespace Job

variable {file : Path} {output : Option String} {code : Int} {hangs survives : Bool}

/-- The section of a process that ends within its time. -/
theorem concluded_of_inTime (h : (hangs && r.timeout.isSome) = false) :
    Task.concluded r.context file
        (Process.exit { conduct := { output, code, hangs, survives } }) false =
      reference r ⟨file, .runs output code hangs survives none⟩ := by
  have hcause : Behaviour.cause r (.runs output code hangs survives none) =
      if code < 0 then some (.terminated r.analyzer (-code)) else none := by
    cases hangs <;> cases hlimit : r.timeout <;> simp_all [Behaviour.cause]
  simp [Task.concluded, Task.complaint, Process.status, Process.isStruck, reference,
    Behaviour.output, Behaviour.status, hcause, h, context]

/-- The section of a process that runs out of time. -/
theorem concluded_of_late (h : (hangs && r.timeout.isSome) = true) :
    Task.concluded r.context file
        (Process.exit (Process.kill .expiry { conduct := { output, code, hangs, survives } }))
        true =
      reference r ⟨file, .runs output code hangs survives none⟩ := by
  obtain ⟨rfl, hsome⟩ := Bool.and_eq_true_iff.1 h
  obtain ⟨limit, hlimit⟩ := Option.isSome_iff_exists.1 hsome
  simp [Task.concluded, Task.complaint, Process.status, Process.isStruck, Process.kill,
    Process.killedStatus, reference, Behaviour.output, Behaviour.status, Behaviour.cause, context,
    hlimit]

/-- **A job is worked at from beginning to end**, in at most as many steps as a task is given, and
what comes of it is its section of reference, unless nobody can wait for its process. -/
theorem works (hstart : j.Befits r s.database s.checks r.launcher) :
    ∃ n ≤ Crew.stepLimit, ∃ p, Task.Works r.context n (r.task s j.file)
      (j.deeds r s.database s.checks)
      { r.task s j.file with stage := .finished p (j.result r) } := by
  -- a refused process ends the task at once, and so does a fault of the wait; else the task waits
  -- once, or twice around the kill
  obtain ⟨file, behaviour⟩ := j
  cases behaviour with
  | refused f => exact ⟨2, by decide, none, Task.works_of_refused rfl hstart⟩
  | runs output code hangs survives fault =>
    have htracked : Task.Works r.context 3 (r.task s file) _ _ := Task.works_start rfl hstart rfl
    cases fault with
    | some f =>
      have hraised := htracked.trans (Task.works_raise rfl rfl rfl)
      exact ⟨6, by decide, _, by simpa [result, deeds, task, Behaviour.fault] using hraised⟩
    | none =>
      cases hlate : hangs && r.timeout.isSome with
      | false =>
        have hwaited := htracked.trans
          (Task.works_wait rfl rfl rfl (by simp [Task.expires, context, hlate]))
        have hdone := hwaited.trans (Task.works_conclude rfl rfl)
        rw [show (r.task s file).file = file from rfl, concluded_of_inTime hlate] at hdone
        exact ⟨7, by decide, _, by
          simpa [result, deeds, task, Behaviour.fault, Behaviour.timesOut, Behaviour.status, hlate,
            Process.status, Process.isStruck, Process.exit] using hdone⟩
      | true =>
        have hexpires :
            Task.expires r.context { conduct := { output, code, hangs, survives } } = true := by
          simp [Task.expires, context, hlate, Process.isStruck]
        have hwaited := htracked.trans (Task.works_expire rfl rfl rfl rfl hexpires)
        have hdone := hwaited.trans (Task.works_conclude rfl rfl)
        rw [show (r.task s file).file = file from rfl, concluded_of_late hlate] at hdone
        exact ⟨8, by decide, _, by
          simpa [result, deeds, task, Behaviour.fault, Behaviour.timesOut, Behaviour.status, hlate,
            Process.status, Process.isStruck, Process.exit, Process.kill,
            Process.killedStatus] using hdone⟩

/-- The crew after a job was worked at. -/
theorem hire_eq (hstart : j.Befits r s.database s.checks r.launcher) (hflag : c.cancelled = false) :
    (r.hire c s j.file).cancelled = false ∧
      (r.hire c s j.file).history = c.history ++ j.deeds r s.database s.checks ∧
      (r.hire c s j.file).result c.tasks.length = j.result r := by
  obtain ⟨n, hn, p, hworks⟩ := j.works hstart
  have hnew : (c.enlist [r.task s j.file]).tasks[c.tasks.length]? = some (r.task s j.file) := by
    simp
  rw [hire, Crew.drive_of_works hworks hn rfl hnew (by simpa using hflag)]
  refine ⟨by simpa using hflag, rfl, ?_⟩
  simp [Crew.result, Crew.result?, Crew.stage?, Crew.setTask, Stage.result?]

/-- The failure that a series ends with at a job, if it does: nobody can wait for the process, or
the first error is to end the series. -/
def failure? (r : Runner) (j : Job) : Option Failure :=
  match j.behaviour.fault with
  | some f => some (.fault (.wait f))
  | none => if r.failFast then (j.reference r).error.map fun e => .problem (.analyzer e) else none

theorem failure?_of_fault {f : WaitFault} (h : j.behaviour.fault = some f) :
    j.failure? r = some (.fault (.wait f)) := by
  simp [failure?, h]

theorem failure?_of_error {e : AnalyzerProblem} (h : j.behaviour.fault = none)
    (hfast : r.failFast = true) (he : (j.reference r).error = some e) :
    j.failure? r = some (.problem (.analyzer e)) := by
  simp [failure?, h, hfast, he]

theorem failure?_eq_none_iff :
    j.failure? r = none ↔
    j.behaviour.fault = none ∧ (r.failFast = true → (j.reference r).error = none) := by
  rw [failure?]
  cases j.behaviour.fault <;> simp

/-- What the taker is given for a job. -/
theorem given_result (r : Runner) (j : Job) : r.given (j.result r) =
    match j.failure? r with
    | some f => .error f
    | none => .ok (some (j.reference r)) := by
  rw [result, failure?]
  cases j.behaviour.fault with
  | some f => rfl
  | none =>
    cases herror : (j.reference r).error <;> cases hfast : r.failFast <;>
      simp [given, checked, herror, hfast, report, Except.map]

/-- Nobody interrupts a job. -/
theorem isInterruption_eq_false {f : Failure} (h : j.failure? r = some f) :
    isInterruption (.error f : Outcome (Option Section)) = false := by
  rw [failure?] at h
  split at h
  · obtain rfl := Option.some.inj h
    rfl
  · split_ifs at h
    obtain ⟨e, -, rfl⟩ := Option.map_eq_some_iff.1 h
    rfl

/-! ### What a section of reference says -/

/-- A section without a status is that of an analyzer that did not start. -/
theorem status_eq_none_iff : (j.reference r).status = none ↔ ∃ f, j.behaviour = .refused f := by
  obtain ⟨file, f | ⟨output, code, hangs, survives, fault⟩⟩ := j <;>
    simp [reference, Behaviour.status]

theorem unstarted_iff {f : SystemFault} :
    (j.reference r).error = some ⟨j.file.text, .notStarted r.analyzer f⟩ ↔
    j.behaviour = .refused f := by
  obtain ⟨file, f' | ⟨output, code, hangs, survives, fault⟩⟩ := j
  · simp [reference, Behaviour.cause]
  · simp only [reference, Behaviour.cause]
    split <;> (try split) <;> simp

/-- A section without an error is that of a process that ended in time and by itself. -/
theorem error_eq_none_iff : (j.reference r).error = none ↔
    j.behaviour.timesOut r.timeout = false ∧ ∃ status, (j.reference r).status = some status ∧
    0 ≤ status := by
  obtain ⟨file, f | ⟨output, code, hangs, survives, fault⟩⟩ := j
  · simp [reference, Behaviour.cause, Behaviour.status]
  · cases hangs <;> cases hlimit : r.timeout <;>
      simp [reference, Behaviour.cause, Behaviour.status, Behaviour.timesOut, hlimit]

/-- Running out of time comes before a signal. -/
theorem timedOut_iff {limit : Binary64} (hlimit : r.timeout = some limit) :
    (j.reference r).error = some ⟨j.file.text, .timedOut r.analyzer limit⟩ ↔
    j.behaviour.timesOut r.timeout = true := by
  obtain ⟨file, f | ⟨output, code, hangs, survives, fault⟩⟩ := j
  · simp [reference, Behaviour.cause, Behaviour.timesOut]
  · cases hangs <;> simp [reference, Behaviour.cause, Behaviour.timesOut, hlimit]

/-- A process receives a kill exactly if it runs out of time, and then one; a process that nobody
can wait for is started, and no more is done to it. -/
theorem count_killed (r : Runner) (database : Path) (checks : String) (j : Job) :
    (j.deeds r database checks).count (.killed j.file) =
      if j.behaviour.fault = none ∧ j.behaviour.timesOut r.timeout = true then 1 else 0 := by
  have hnoted : ((j.behaviour.status r.timeout).toList.map fun status =>
      Effect.noted (.fileFinished j.file status)).count (.killed j.file) = 0 := by
    simp [List.count_eq_zero]
  rw [deeds]
  cases j.behaviour.fault with
  | some f => simp
  | none =>
    simp only [List.count_cons, List.count_append, hnoted]
    split <;> simp_all

/-- Whether a process can be waited for follows from the time that it is given. -/
theorem fault_of_isTimely {database : Path} {checks : String} (h : j.Befits r database checks l)
    (hl : l.IsTimely) :
    (∃ f, j.behaviour = .refused f) ∨ j.behaviour.fault = r.timeout.bind waitFault? := by
  obtain ⟨file, f | ⟨output, code, hangs, survives, fault⟩⟩ := j
  · exact .inl ⟨f, rfl⟩
  · exact .inr (hl _ _ _ _ h)

end Job

/-- **The next section of a series is that of its first job**, or its failure ends the series. -/
theorem next_of_job (hs : s.parallel = false) {rest : List Path} (hfiles : s.files = j.file :: rest)
    (hstart : j.Befits r s.database s.checks r.launcher) (hflag : c.cancelled = false) :
    ∃ c', c'.cancelled = false ∧ c'.history = c.history ++ j.deeds r s.database s.checks ∧
      (j.failure? r = none →
        r.next c s = (.ok (some (j.reference r)), c', { s with files := rest })) ∧
      ∀ f, j.failure? r = some f → r.next c s = (.error f, c', s.over) := by
  obtain ⟨hflag', hhistory, hresult⟩ := Job.hire_eq hstart hflag
  have hanswer : r.given ((r.hire c s j.file).result c.tasks.length) = _ :=
    (congrArg r.given hresult).trans (j.given_result r)
  refine ⟨r.hire c s j.file, hflag', hhistory, fun hnone => ?_, fun f hf => ?_⟩
  · rw [hnone] at hanswer
    rw [next_of_cons hs hfiles hanswer]
    simp [ends]
  · rw [hf] at hanswer
    rw [next_of_cons hs hfiles hanswer]
    simp [ends, onInterruption, Job.isInterruption_eq_false hf]

/-! ### All jobs -/

/-- All sections that are left, each asked for under a launcher of its own. -/
def allUnder (r : Runner) : List Launcher → Crew → Series →
    List Section × Option Failure × Crew × Series
  | [], c, s => ([], none, c, s)
  | l :: rest, c, s =>
    match ({ r with launcher := l } : Runner).next c s with
    | (.ok none, c, s) => ([], none, c, s)
    | (.error f, c, s) => ([], some f, c, s)
    | (.ok (some entry), c, s) =>
      let (sections, failure, c, s) := allUnder r rest c s
      (entry :: sections, failure, c, s)

/-- To take all sections is to ask for each under the same launcher. -/
theorem all_eq_allUnder (r : Runner) (c : Crew) (s : Series) :
    r.all c s = r.allUnder (List.replicate (s.files.length + 1) r.launcher) c s := by
  rw [all]
  generalize s.files.length + 1 = n
  induction n generalizing c s with
  | zero => rfl
  | succ n ih =>
    rw [allFrom, List.replicate_succ, allUnder]
    split <;> simp_all

/-- **A series goes through its jobs one by one**, as long as none of them ends it. -/
theorem allUnder_of_passing {jobs : List Job} {launchers : List Launcher} {rest : List Path}
    (hs : s.parallel = false)
    (hlaunch : List.Forall₂ (Job.Befits r s.database s.checks) launchers jobs)
    (hpasses : ∀ j ∈ jobs, j.failure? r = none) (hfiles : s.files = jobs.map Job.file ++ rest)
    (hflag : c.cancelled = false) :
    ∃ c', c'.cancelled = false ∧
      c'.history = c.history ++ jobs.flatMap (Job.deeds r s.database s.checks) ∧
      ∀ more, r.allUnder (launchers ++ more) c s =
        (jobs.map (Job.reference r) ++ (r.allUnder more c' { s with files := rest }).1,
          (r.allUnder more c' { s with files := rest }).2) := by
  -- the invariant: nobody has cancelled, and the files that are left are those of the jobs that are
  -- left
  induction jobs generalizing c s launchers with
  | nil =>
    cases hlaunch
    have hsame : ({ s with files := rest } : Series) = s := by
      rw [← show s.files = rest from hfiles]
    exact ⟨c, hflag, by simp, fun more => by rw [hsame]; rfl⟩
  | cons j jobs ih =>
    obtain ⟨l, launchers, hj, hrest, rfl⟩ := List.forall₂_cons_right_iff.1 hlaunch
    obtain ⟨hpass, hpasses⟩ := List.forall_mem_cons.1 hpasses
    have hfiles : s.files = j.file :: (jobs.map Job.file ++ rest) := hfiles
    obtain ⟨c₁, hflag₁, hhistory₁, hnext, -⟩ :=
      next_of_job (r := { r with launcher := l }) hs hfiles hj hflag
    obtain ⟨c', hflag', hhistory', hall⟩ :=
      ih (s := { s with files := jobs.map Job.file ++ rest }) hs hrest hpasses rfl hflag₁
    refine ⟨c', hflag', ?_, fun more => ?_⟩
    · rw [hhistory', hhistory₁, List.flatMap_cons, List.append_assoc]
      rfl
    · rw [List.cons_append, allUnder, hnext hpass]
      simp only [hall]
      rfl

section Jobs

variable {database : Path} {checks : String} {jobs before after : List Job}
  {launchers : List Launcher}

/-- A series of jobs none of which ends it is gone through. -/
theorem allUnder_series (hone : r.jobs ≤ 1)
    (hlaunch : List.Forall₂ (Job.Befits r database checks) launchers jobs)
    (hpasses : ∀ j ∈ jobs, j.failure? r = none) (hflag : c.cancelled = false) (last : Launcher) :
    let taken := r.allUnder (launchers ++ [last]) c (r.series database checks (jobs.map Job.file))
    taken.1 = jobs.map (Job.reference r) ∧ taken.2.1 = none ∧
      taken.2.2.1.history = c.history ++ jobs.flatMap (Job.deeds r database checks) := by
  intro taken
  obtain ⟨c', -, hhistory, hall⟩ := allUnder_of_passing (series_sequential hone database checks _)
    hlaunch hpasses
    (List.append_nil _).symm hflag
  rw [show taken = _ from hall [last]]
  exact ⟨List.append_nil _, rfl, hhistory⟩

/-- The first job with a failure ends a series, and what comes behind is left alone. -/
theorem allUnder_series_of_failure {f : Failure} (hone : r.jobs ≤ 1)
    (hlaunch : List.Forall₂ (Job.Befits r database checks) launchers (before ++ j :: after))
    (hpasses : ∀ k ∈ before, k.failure? r = none) (hf : j.failure? r = some f)
    (hflag : c.cancelled = false) (more : List Launcher) :
    let taken := r.allUnder (launchers ++ more)
      c (r.series database checks ((before ++ j :: after).map Job.file))
    taken.1 = before.map (Job.reference r) ∧ taken.2.1 = some f ∧
      taken.2.2.1.history = c.history ++ (before ++ [j]).flatMap (Job.deeds r database checks) := by
  intro taken
  have hsplit : (before ++ j :: after).map Job.file =
      before.map Job.file ++ j.file :: after.map Job.file := by simp
  set s := r.series database checks ((before ++ j :: after).map Job.file)
  have hsequential : s.parallel = false := series_sequential hone database checks _
  have hbefore := List.forall₂_take_append launchers before (j :: after) hlaunch
  obtain ⟨l, launchersAfter, hj, -, hfrom⟩ :=
    List.forall₂_cons_right_iff.1 (List.forall₂_drop_append launchers before (j :: after) hlaunch)
  obtain ⟨c', hflag', hhistory, hall⟩ :=
    allUnder_of_passing hsequential hbefore hpasses hsplit hflag
  obtain ⟨c'', -, hhistory', -, hnext⟩ := next_of_job (r := { r with launcher := l })
    (s := { s with files := j.file :: after.map Job.file }) hsequential rfl hj hflag'
  have hlaunchers :
      launchers ++ more = launchers.take before.length ++ l :: (launchersAfter ++ more) := by
    rw [← List.cons_append, ← hfrom, ← List.append_assoc, List.take_append_drop]
  rw [show taken = r.allUnder (launchers ++ more) c s from rfl, hlaunchers, hall, allUnder,
    hnext f hf]
  refine ⟨List.append_nil _, rfl, ?_⟩
  calc c''.history = c'.history ++ j.deeds r database checks := hhistory'
    _ = c.history ++ before.flatMap (Job.deeds r database checks) ++ j.deeds r database checks :=
      congrArg (· ++ _) hhistory
    _ = c.history ++ (before ++ [j]).flatMap (Job.deeds r database checks) := by simp

end Jobs

/-- **What one job at a time makes of a list of files is what the process of each file leads to by
itself, up to the first one that nobody can wait for.** Each section may be asked for under a
launcher of its own, and to take them all is to ask for them under the same one. A section of
reference has no status, and says that its analyzer could not be started, exactly if it was refused.
It has no error exactly if its process ended in time and with a status that is not negative, and
that the time was over is what it says even if a signal ended the process. A process is killed once
if its time is over, and else not at all. Unless a section with an error ends the series, there is
one section for each file in order, and else the sections are those of the files before, the failure
is the error, and nothing is done for the files behind. A process that nobody can wait for ends the
series in every case: the sections are those of the files before, the failure is the fault of the
wait, and once started the process is left alone. Under timely launchers these are the processes
that are given a time which nobody can wait, and no others. -/
theorem sequential_run_matches_reference_until_fault {r : Runner} (hone : r.jobs ≤ 1) {c : Crew}
    (hflag : c.cancelled = false) {database : Path} {checks : String} {jobs : List Job}
    {launchers : List Launcher}
    (hlaunch : List.Forall₂ (Job.Befits r database checks) launchers jobs) (last : Launcher) :
    let s := r.series database checks (jobs.map Job.file)
    let taken := r.allUnder (launchers ++ [last]) c s
    ((∀ l ∈ launchers ++ [last], l = r.launcher) → r.all c s = taken) ∧
    (∀ j ∈ jobs,
      ((j.reference r).status = none ↔ ∃ f, j.behaviour = .refused f) ∧
      (∀ f, (j.reference r).error = some ⟨j.file.text, .notStarted r.analyzer f⟩ ↔
        j.behaviour = .refused f) ∧
      ((j.reference r).error = none ↔
        j.behaviour.timesOut r.timeout = false ∧
          ∃ status, (j.reference r).status = some status ∧ 0 ≤ status) ∧
      (∀ limit, r.timeout = some limit →
        ((j.reference r).error = some ⟨j.file.text, .timedOut r.analyzer limit⟩ ↔
          j.behaviour.timesOut r.timeout = true)) ∧
      (j.deeds r database checks).count (.killed j.file) =
        if j.behaviour.fault = none ∧ j.behaviour.timesOut r.timeout = true then 1 else 0) ∧
    ((∀ j ∈ jobs, j.behaviour.fault = none) →
      (r.failFast = false ∨ ∀ j ∈ jobs, (j.reference r).error = none) →
      taken.1 = jobs.map (Job.reference r) ∧ taken.2.1 = none ∧
        taken.2.2.1.history = c.history ++ jobs.flatMap (Job.deeds r database checks)) ∧
    (∀ before j after e, r.failFast = true → jobs = before ++ j :: after →
      (∀ k ∈ before, k.behaviour.fault = none ∧ (k.reference r).error = none) →
      j.behaviour.fault = none → (j.reference r).error = some e →
      taken.1 = before.map (Job.reference r) ∧ taken.2.1 = some (.problem (.analyzer e)) ∧
        taken.2.2.1.history = c.history ++ (before ++ [j]).flatMap (Job.deeds r database checks)) ∧
    (∀ before j after f, jobs = before ++ j :: after →
      (∀ k ∈ before, k.behaviour.fault = none ∧
        (r.failFast = true → (k.reference r).error = none)) →
      j.behaviour.fault = some f →
      taken.1 = before.map (Job.reference r) ∧ taken.2.1 = some (.fault (.wait f)) ∧
        taken.2.2.1.history = c.history ++ before.flatMap (Job.deeds r database checks) ++
          [.spawned j.file (r.command database checks j.file)]) ∧
    ((∀ l ∈ launchers, l.IsTimely) →
      ∀ j ∈ jobs, (∃ f, j.behaviour = .refused f) ∨ j.behaviour.fault =
        r.timeout.bind waitFault?) := by
  intro s taken
  refine ⟨fun hsame => ?_,
    fun j _ => ⟨Job.status_eq_none_iff, fun f => Job.unstarted_iff, Job.error_eq_none_iff,
    fun limit => Job.timedOut_iff, Job.count_killed r database checks j⟩,
    fun hcalm hpasses => ?_, ?_, ?_, ?_⟩
  · have hlength : (launchers ++ [last]).length = s.files.length + 1 := by
      simpa [s, series] using hlaunch.length_eq
    rw [all_eq_allUnder, ← hlength, ← List.eq_replicate_length.2 hsame]
  · refine allUnder_series hone hlaunch
      (fun j hj => Job.failure?_eq_none_iff.2 ⟨hcalm j hj, fun hfast => ?_⟩) hflag last
    exact hpasses.resolve_left (by simp [hfast]) j hj
  · rintro before j after e hfast rfl hbefore hcalm herror
    exact allUnder_series_of_failure hone hlaunch
      (fun k hk => Job.failure?_eq_none_iff.2 ⟨(hbefore k hk).1, fun _ => (hbefore k hk).2⟩)
      (Job.failure?_of_error hcalm hfast herror) hflag [last]
  · rintro before j after f rfl hbefore hfault
    obtain ⟨hgiven, hfailure, hhistory⟩ := allUnder_series_of_failure hone hlaunch
      (fun k hk => Job.failure?_eq_none_iff.2 (hbefore k hk))
      (Job.failure?_of_fault hfault) hflag [last]
    have hdeeds : j.deeds r database checks =
        [.spawned j.file (r.command database checks j.file)] := by
      simp [Job.deeds, hfault]
    exact ⟨hgiven, hfailure, hhistory.trans (by simp [hdeeds])⟩
  · intro htimely
    have hfaults := ((List.forall₂_and_left _ _).2 ⟨htimely, hlaunch⟩).imp
      fun l j h => Job.fault_of_isTimely h.2 h.1
    exact ((List.forall₂_and_left _ _).1 (hfaults.flip.imp fun j l h => And.intro h trivial)).1

/-- The second of three processes hangs and is killed, and the third one is refused. Whoever keeps
going gets three sections; else the series ends with the second file, and nothing is done for the
third one. -/
theorem sequential_run_matches_reference_of_hanging :
    let file (name : String) : Path := ⟨.relative, [name]⟩
    let ends : Job := ⟨file "a", .runs (some "fine\n") 1 false false none⟩
    let hangs : Job := ⟨file "b", .runs none 0 true false none⟩
    let refused : Job := ⟨file "c", .refused ⟨2, "No such file or directory", some "clang-tidy"⟩⟩
    let jobs := [ends, hangs, refused]
    let launcher : Launcher := fun _ command _ => match command.getLast? with
      | some "a" => ends.behaviour.start
      | some "b" => hangs.behaviour.start
      | _ => refused.behaviour.start
    let r (fast : Bool) : Runner :=
      { timeout := some ⟨0x3FF0000000000000⟩, failFast := fast, launcher }
    let all (fast : Bool) := (r fast).all {} ((r fast).series .here "" (jobs.map Job.file))
    (∀ fast, (r fast).jobs ≤ 1 ∧ List.Forall₂ (Job.Befits (r fast) .here "")
      (jobs.map fun _ => launcher) jobs) ∧
      (all false).1 = jobs.map (Job.reference (r false)) ∧ (all false).2.1 = none ∧
      (all true).1 = [ends.reference (r true)] ∧
      (all true).2.1 = some (.problem
        (.analyzer ⟨"b", .timedOut "clang-tidy" ⟨0x3FF0000000000000⟩⟩)) ∧
      (all true).2.2.1.history.count (.killed (file "b")) = 1 ∧
      attempts (all true).2.2.1.history = [file "a", file "b"] := by
  intro file ends hangs refused jobs launcher r all
  have hone (fast : Bool) : (r fast).jobs ≤ 1 := le_refl 1
  have hlaunch (fast : Bool) :
      List.Forall₂ (Job.Befits (r fast) .here "") (jobs.map fun _ => launcher) jobs :=
    .cons rfl (.cons rfl (.cons rfl .nil))
  have hsame (fast : Bool) : ∀ l ∈ (jobs.map fun _ => launcher) ++ [launcher], l =
      (r fast).launcher := by
    simp [jobs, r]
  have hcalm : ∀ j ∈ jobs, j.behaviour.fault = none := by
    simp [jobs, ends, hangs, refused, Behaviour.fault]
  have herror : (hangs.reference (r true)).error =
      some ⟨"b", .timedOut "clang-tidy" ⟨0x3FF0000000000000⟩⟩ := rfl
  have hfine : ∀ k ∈ [ends], k.behaviour.fault = none ∧ (k.reference (r true)).error = none := by
    rintro k (_ | ⟨_, ⟨⟩⟩)
    exact ⟨rfl, rfl⟩
  have hdeeds : ([ends, hangs].flatMap (Job.deeds (r true) .here "")).count
    (.killed (file "b")) = 1 ∧
      attempts ([ends, hangs].flatMap (Job.deeds (r true) .here "")) = [file "a", file "b"] := by
    decide
  -- nothing is left to compute
  have hslow : (r false).failFast = false := rfl
  have hfast : (r true).failFast = true := rfl
  clear_value r
  obtain ⟨hall, -, hkept, -⟩ :=
    sequential_run_matches_reference_until_fault (hone false) (c := {}) rfl (hlaunch false) launcher
  obtain ⟨hall', -, -, hstopped, -⟩ :=
    sequential_run_matches_reference_until_fault (hone true) (c := {}) rfl (hlaunch true) launcher
  obtain ⟨hgiven, hnone, -⟩ := hkept hcalm (.inl hslow)
  obtain ⟨hgiven', hfailure, hhistory⟩ :=
    hstopped [ends] hangs [refused] _ hfast rfl hfine rfl herror
  rw [← hall (hsame false)] at hgiven hnone
  rw [← hall' (hsame true)] at hgiven' hfailure hhistory
  exact ⟨fun fast => ⟨hone fast, hlaunch fast⟩, hgiven, hnone, hgiven', hfailure,
    hhistory ▸ hdeeds.1, hhistory ▸ hdeeds.2⟩

/-- Ten million seconds are more than anybody can wait: the process of the only file is started,
there is no section for it, and nobody ends it. -/
theorem overlong_timeout_gives_no_section :
    let launcher : Launcher := fun limit _ _ =>
      .process { output := some "hi\n", waitFault := limit.bind waitFault? }
    let r : Runner := { timeout := some ⟨0x416312D000000000⟩, launcher }
    let all := r.all {} (r.series .here "" [⟨.relative, ["a.cc"]⟩])
    launcher.IsTimely ∧ all.1 = [] ∧ all.2.1 = some (.fault (.wait .tooLong)) ∧
      ∃ p, all.2.2.1.process? 0 = some p ∧ p.exited = false ∧ p.isKilled = false := by
  intro launcher r all
  have hlong : waitFault? ⟨0x416312D000000000⟩ = some .tooLong := by decide +kernel
  have hstart : ∀ command environment, launcher r.timeout command environment =
      .process { output := some "hi\n", waitFault := some .tooLong } := by
    intro command environment
    simp only [launcher, r, Option.bind_some, hlong]
  have htimely : launcher.IsTimely := fun _ _ _ _ h => (Start.process.inj h) ▸ rfl
  have hprocess : all.2.2.1.process? 0 =
      some { conduct := { output := some "hi\n", waitFault := some .tooLong } } := by decide +kernel
  have hone : r.jobs ≤ 1 := le_refl 1
  have hall : all = r.allUnder ([launcher] ++ [launcher]) {}
      (r.series .here "" [⟨.relative, ["a.cc"]⟩]) :=
    all_eq_allUnder r {} _
  -- nothing is left to compute
  clear_value launcher r all
  have hjob : List.Forall₂ (Job.Befits r .here "") [launcher]
      ([] ++ ⟨⟨.relative, ["a.cc"]⟩, .runs (some "hi\n") 0 false false (some .tooLong)⟩ :: []) :=
    .cons (hstart _ _) .nil
  obtain ⟨hgiven, hfailure, -⟩ := allUnder_series_of_failure (c := {}) hone hjob nofun
    (Job.failure?_of_fault rfl) rfl
    [launcher]
  rw [hall]
  exact ⟨htimely, hgiven, hfailure, _, hall ▸ hprocess, rfl, rfl⟩

end Runner
end LintRun
