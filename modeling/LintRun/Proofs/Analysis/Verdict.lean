import Mathlib
import LintRun.Proofs.Analysis.Task

/-!
# Proofs — Analysis — Verdicts

What comes of a task, and what its steps keep.

* `Task.verdict`: what comes of a task while nobody cancels. It depends on the command and the
  environment only.
* `Process.Fair`: what holds of a process that was started. Only a cancellation under the raised
  flag has stopped it, and if none has, it was killed exactly if its time is over.
* `Task.Sound`: the invariant of a task. A result is the verdict unless the flag is up, and a
  process that a cancellation has stopped ends in a section only if a kill does not decide its
  status.
* `Task.Sound.change`: every move keeps it.
-/

namespace LintRun.Analysis

/-- Whether a process outlasts the time that it is given. -/
def Conduct.outlasts (ctx : Context) (c : Conduct) : Bool := c.hangs && ctx.timeout.isSome

/-- What waiting for a process raises while nobody cancels; the second wait is only for a process
that outlasts its time. -/
def Conduct.raised? (ctx : Context) (c : Conduct) : Option Fault :=
  match c.raises? false with
  | some f => some f
  | none => if c.outlasts ctx then c.raises? true else none

/-- A kill that decides how the process ends leaves a negative status. -/
def Conduct.IsMortal (c : Conduct) : Prop := c.survives = true → c.code < 0

/-- A kill that decides how a process ends leaves a negative status, whatever is started. -/
def Context.IsMortal (ctx : Context) : Prop :=
  ∀ command c, ctx.launcher ctx.timeout command ctx.environment = .process c → c.IsMortal

/-- No process provokes a cancellation. -/
def Context.IsSteady (ctx : Context) : Prop :=
  ∀ command c, ctx.launcher ctx.timeout command ctx.environment = .process c → c.cancelled = none

/-- A process that has ended while nobody cancelled. -/
def Process.undisturbed (ctx : Context) (c : Conduct) : Process :=
  { conduct := c, kills := if c.outlasts ctx then [⟨.expiry, true⟩] else [], exited := true }

/-- What comes of a task while nobody cancels. -/
def Task.verdict (ctx : Context) (t : Task) : Result :=
  match ctx.launcher ctx.timeout t.command ctx.environment with
  | .refused f => .completed (Task.unstarted ctx t.file f)
  | .impossible f => .raised f
  | .process c =>
    match c.raised? ctx with
    | some f => .raised f
    | none => .completed (Task.concluded ctx t.file (Process.undisturbed ctx c) (c.outlasts ctx))

namespace Task

variable {ctx : Context} {b : Bool} {t t' : Task} {p : Process} {expired : Bool}

theorem expires_eq (ctx : Context) (p : Process) :
    expires ctx p = (p.conduct.outlasts ctx && !p.isStruck && !p.exited) := rfl

/-- `p` is the process that the command of `t` starts. -/
def Starts (ctx : Context) (t : Task) (p : Process) : Prop :=
  ctx.launcher ctx.timeout t.command ctx.environment = .process p.conduct

/-- A fault that ends the wait for its process is what comes of a task. -/
theorem Starts.verdict_of_raised (h : t.Starts ctx p) {f : Fault}
    (hf : p.conduct.raised? ctx = some f) :
    t.verdict ctx = .raised f := by
  have hlaunch : ctx.launcher ctx.timeout t.command ctx.environment = .process p.conduct := h
  simp only [verdict, hlaunch, hf]

theorem Starts.verdict_of_calm (h : t.Starts ctx p) (hf : p.conduct.raised? ctx = none) :
    t.verdict ctx =
    .completed (concluded ctx t.file (Process.undisturbed ctx p.conduct)
      (p.conduct.outlasts ctx)) := by
  have hlaunch : ctx.launcher ctx.timeout t.command ctx.environment = .process p.conduct := h
  simp only [verdict, hlaunch, hf]

end Task

/-! ### Processes that were started -/

/-- What holds of a process under the flag `cancelled`, when its task has found that its time is
over or not. -/
structure Process.Fair (ctx : Context) (cancelled expired : Bool) (p : Process) : Prop where
  /-- Only a cancellation that has raised the flag has stopped it. -/
  stopped : p.isStopped = true → cancelled = true
  /-- If none has, then it was killed exactly if its time is over. -/
  struck : p.isStopped = false → p.isStruck = expired
  outlasts : expired = true → p.conduct.outlasts ctx = true
  /-- If none has, then it does not end within its time unless it can. -/
  exited : p.isStopped = false → p.exited = true → p.conduct.outlasts ctx = expired

namespace Process.Fair

variable {ctx : Context} {b : Bool} {p : Process} {expired : Bool}

theorem new (ctx : Context) (b : Bool) (c : Conduct) : Fair ctx b false { conduct := c } :=
  ⟨by simp [isStopped], by simp [isStopped, isStruck], by simp, by simp⟩

/-- The flag may be raised. -/
theorem raise (h : Fair ctx false expired p) (b : Bool) : Fair ctx b expired p :=
  ⟨fun hs => absurd (h.stopped hs) (by simp), h.struck, h.outlasts, h.exited⟩

theorem kill (h : Fair ctx true expired p) : Fair ctx true expired (p.kill .cancellation) := by
  refine ⟨fun _ => rfl, fun hs => ?_, h.outlasts, fun hs he => ?_⟩
  · simp only [isStopped_kill_cancellation, Bool.or_eq_false_iff] at hs
    simp [h.struck hs.1, hs.2]
  · simp only [isStopped_kill_cancellation, Bool.or_eq_false_iff] at hs
    exact h.exited hs.1 he

/-- A process that runs out of time is killed for it. -/
theorem expire (h : Fair ctx b false p) (he : Task.expires ctx p = true) :
    Fair ctx b true (p.kill .expiry) := by
  simp only [Task.expires_eq, Bool.and_eq_true, Bool.not_eq_true'] at he
  obtain ⟨⟨ho, -⟩, hx⟩ := he
  refine ⟨fun hs => h.stopped (by simpa using hs), fun _ => by simp [hx],
    fun _ => ho, fun _ he => ?_⟩
  rw [exited_kill, hx] at he
  cases he

/-- A process whose time was over is dying already. -/
theorem not_expires (h : Fair ctx b true p) : Task.expires ctx p = false := by
  have hs : p.isStruck = true := by
    cases hp : p.isStopped with
    | true => exact isStruck_of_isStopped hp
    | false => exact h.struck hp
  simp [Task.expires_eq, hs]

theorem exit (h : Fair ctx b expired p) (he : Task.expires ctx p = false) :
    Fair ctx b expired p.exit := by
  refine ⟨h.stopped, h.struck, h.outlasts, fun hs _ => ?_⟩
  have hs : p.isStopped = false := hs
  cases expired with
  | true => exact h.outlasts rfl
  | false =>
    rw [Task.expires_eq, h.struck hs] at he
    cases hx : p.exited with
    | true => exact h.exited hs hx
    | false => simpa [hx] using he

/-- A process that nobody has stopped ends as it would alone. -/
theorem status_eq (h : Fair ctx b expired p) (hs : p.isStopped = false) (hx : p.exited = true) :
    p.status = (undisturbed ctx p.conduct).status := by
  have ho := h.exited hs hx
  simp only [status, h.struck hs, ← ho]
  cases hc : p.conduct.outlasts ctx <;> simp [undisturbed, isStruck, hc]

/-- A process that somebody has stopped ends with a negative status, if a kill decides it. -/
theorem status_neg (hs : p.isStopped = true) (hm : p.conduct.IsMortal) : p.status < 0 := by
  simp only [status, isStruck_of_isStopped hs, Bool.true_and]
  cases hv : p.conduct.survives with
  | true => simpa using hm hv
  | false => simp [killedStatus]

end Process.Fair

/-! ### The invariant of a task -/

/-- No wait for a process that has come so far raised a fault. -/
def Conduct.IsCalm (c : Conduct) (expired : Bool) : Prop :=
  c.raises? false = none ∧ (expired = true → c.raises? true = none)

theorem Conduct.IsCalm.raised?_eq_none {ctx : Context} {c : Conduct}
    (h : c.IsCalm (c.outlasts ctx)) :
    c.raised? ctx = none := by
  rw [raised?, h.1]
  cases ho : c.outlasts ctx with
  | false => rfl
  | true => exact h.2 ho

/-- The invariant of a task under the flag `cancelled`, by its stage. -/
def Task.Sound (ctx : Context) (cancelled : Bool) (t : Task) : Prop :=
  match t.stage with
  | .queued | .cleared => True
  | .spawned p | .tracked p => t.Starts ctx p ∧ p.Fair ctx cancelled false
  | .waiting p expired =>
    t.Starts ctx p ∧ p.Fair ctx cancelled expired ∧
      (expired = true → p.conduct.raises? false = none)
  | .left p (.ended expired) | .concluding p expired =>
    t.Starts ctx p ∧ p.Fair ctx cancelled expired ∧ p.exited = true ∧ p.conduct.IsCalm expired
  | .left _ (.raised f) => t.verdict ctx = .raised f
  | .finished none r => r = .nothing ∧ cancelled = true ∨ r = t.verdict ctx
  | .finished (some _) .nothing => cancelled = true
  | .finished (some _) (.raised f) => t.verdict ctx = .raised f
  | .finished (some p) (.completed s) =>
    t.Starts ctx p ∧ p.exited = true ∧
      (p.isStopped = true → cancelled = true ∧ ¬ p.conduct.IsMortal) ∧
      (p.isStopped = false → t.verdict ctx = .completed s)

namespace Task

variable {ctx : Context} {b : Bool} {t t' : Task} {p : Process}

theorem verdict_ne_nothing (ctx : Context) (t : Task) : t.verdict ctx ≠ .nothing := by
  simp only [verdict]
  split <;> (try split) <;> simp

namespace Sound

/-- The flag may be raised. -/
theorem raise (h : t.Sound ctx false) (b : Bool) : t.Sound ctx b := by
  obtain ⟨file, command, stage⟩ := t
  cases stage with
  | queued | cleared => trivial
  | spawned p | tracked p => exact ⟨h.1, h.2.raise b⟩
  | waiting p e => exact ⟨h.1, h.2.1.raise b, h.2.2⟩
  | left p how =>
    cases how with
    | ended e => exact ⟨h.1, h.2.1.raise b, h.2.2⟩
    | raised f => exact h
  | concluding p e => exact ⟨h.1, h.2.1.raise b, h.2.2⟩
  | finished p r =>
    cases p with
    | none => exact .inr (h.resolve_left fun hr => absurd hr.2 (by simp))
    | some p =>
      cases r with
      | nothing => exact absurd (show false = true from h) (by simp)
      | raised f => exact h
      | completed s => exact ⟨h.1, h.2.1, fun hs => absurd (h.2.2.1 hs).1 (by simp), h.2.2.2⟩

theorem exit (h : t.Sound ctx b) (hp : t.stage.process? = some p) (he : expires ctx p = false) :
    Sound ctx b { t with stage := t.stage.mapProcess Process.exit } := by
  obtain ⟨file, command, stage⟩ := t
  cases stage with
  | queued | cleared => trivial
  | spawned q | tracked q => cases hp; exact ⟨h.1, h.2.exit he⟩
  | waiting q e => cases hp; exact ⟨h.1, h.2.1.exit he, h.2.2⟩
  | left q how =>
    cases how with
    | ended e => cases hp; exact ⟨h.1, h.2.1.exit he, rfl, h.2.2.2⟩
    | raised f => exact h
  | concluding q e => cases hp; exact ⟨h.1, h.2.1.exit he, rfl, h.2.2.2⟩
  | finished q r =>
    obtain rfl : q = some p := hp
    cases r with
    | nothing | raised f => exact h
    | completed s => exact ⟨h.1, rfl, h.2.2⟩

/-- A cancellation kills processes that have not ended; a section comes of a process that has. -/
theorem kill (h : t.Sound ctx true) (hp : t.stage.process? = some p) (he : p.exited = false) :
    Sound ctx true { t with stage := t.stage.mapProcess (Process.kill .cancellation) } := by
  obtain ⟨file, command, stage⟩ := t
  cases stage with
  | queued | cleared => trivial
  | spawned q | tracked q => exact ⟨h.1, h.2.kill⟩
  | waiting q e => exact ⟨h.1, h.2.1.kill, h.2.2⟩
  | left q how =>
    cases how with
    | ended e => exact ⟨h.1, h.2.1.kill, h.2.2⟩
    | raised f => exact h
  | concluding q e => exact ⟨h.1, h.2.1.kill, h.2.2⟩
  | finished q r =>
    obtain rfl : q = some p := hp
    cases r with
    | nothing | raised f => exact h
    | completed s => exact absurd (h.2.1.symm.trans he) (by simp)

/-- Starting the process, or failing to. -/
theorem advance_cleared (file : Path) (command : List String) :
    Sound ctx b (Task.advance ctx b ⟨file, command, .cleared⟩).1 := by
  simp only [advance]
  cases hl : ctx.launcher ctx.timeout command ctx.environment with
  | refused f => exact .inr (by simp [verdict, hl])
  | impossible f => exact .inr (by simp [verdict, hl])
  | process c => exact ⟨hl, .new ctx b c⟩

/-- A fault of a wait is part of the conduct, so it is the verdict. -/
theorem verdict_of_raises {file : Path} {command : List String} {e : Bool} {f : Fault}
    (h : Sound ctx b ⟨file, command, .waiting p e⟩) (hf : p.conduct.raises? e = some f) :
    verdict ctx ⟨file, command, .waiting p e⟩ = .raised f := by
  obtain ⟨hs, hfair, hi⟩ := h
  refine hs.verdict_of_raised ?_
  cases e with
  | false => simp [Conduct.raised?, hf]
  | true => simp [Conduct.raised?, hi rfl, hfair.outlasts rfl, hf]

/-- A wait that raises a fault, runs out of time, or ends with the process. -/
theorem advance_waiting {file : Path} {command : List String} {e : Bool}
    (h : Sound ctx b ⟨file, command, .waiting p e⟩) :
    Sound ctx b (Task.advance ctx b ⟨file, command, .waiting p e⟩).1 := by
  obtain ⟨f, hf, hstep⟩ | ⟨hcalm, rfl, hexpires, hstep⟩ | ⟨hcalm, hexpires, hstep⟩ :=
    advance_waiting_cases ctx b file command p e <;> rw [hstep]
  · exact verdict_of_raises h hf
  · exact ⟨h.1, h.2.1.expire hexpires, fun _ => hcalm⟩
  · obtain ⟨hs, hf, hi⟩ := h
    cases e with
    | true => exact ⟨hs, hf.exit hf.not_expires, rfl, hi rfl, fun _ => hcalm⟩
    | false => exact ⟨hs, hf.exit (hexpires rfl), rfl, hcalm, nofun⟩

/-- A section is the verdict, unless a cancellation has stopped the process and its status does not
show it. -/
theorem advance_concluding {file : Path} {command : List String} {e : Bool}
    (h : Sound ctx b ⟨file, command, .concluding p e⟩) :
    Sound ctx b (Task.advance ctx b ⟨file, command, .concluding p e⟩).1 := by
  obtain ⟨hs, hf, hx, hcalm⟩ := h
  simp only [advance]
  split_ifs with hc
  · show b = true
    simp_all
  · refine ⟨hs, hx, fun hp => ?_, fun hp => ?_⟩
    · have hb := hf.stopped hp
      subst hb
      refine ⟨rfl, fun hm => hc ?_⟩
      simpa using Process.Fair.status_neg hp hm
    · show verdict ctx ⟨file, command, .concluding p e⟩ = .completed (concluded ctx file p e)
      rw [hs.verdict_of_calm (Conduct.IsCalm.raised?_eq_none (by rwa [hf.exited hp hx]))]
      simp only [concluded, complaint, hf.status_eq hp hx, hf.exited hp hx]
      rfl

theorem advance (h : t.Sound ctx b) : (t.advance ctx b).1.Sound ctx b := by
  obtain ⟨file, command, stage⟩ := t
  cases stage with
  | queued =>
    simp only [Task.advance]
    split
    · next hb => exact .inl ⟨rfl, hb⟩
    · trivial
  | cleared => exact advance_cleared file command
  | spawned p => exact h
  | tracked p =>
    simp only [Task.advance]
    split
    · next hb => subst hb; exact ⟨h.1, h.2.kill, by simp⟩
    · exact ⟨h.1, h.2, by simp⟩
  | waiting p e => exact advance_waiting h
  | left p how => cases how <;> exact h
  | concluding p e => exact advance_concluding h
  | finished p r => exact h

/-- Every move keeps the invariant of a task. -/
theorem change (h : t.Sound ctx b) (hc : Change ctx b t t') : t'.Sound ctx b := by
  cases hc with
  | rest => exact h
  | advance => exact h.advance
  | exit p hp he => exact h.exit hp he
  | kill p hp he hb => subst hb; exact h.kill hp he

/-! ### What a sound result says -/

variable {s : Section}

/-- Nothing comes of a task only under the raised flag. -/
theorem cancelled_of_nothing (h : t.Sound ctx b) (hr : t.stage.result? = some .nothing) :
    b = true := by
  obtain ⟨p, hp⟩ := Stage.result?_eq_some_iff.1 hr
  obtain ⟨file, command, stage⟩ := t
  obtain rfl : stage = .finished p .nothing := hp
  cases p with
  | none => exact (h.resolve_right fun hv => verdict_ne_nothing ctx _ hv.symm).2
  | some p => exact h

/-- What else comes of a task is its verdict, if the flag is down or a kill decides how its process
ends. -/
theorem verdict_eq (h : t.Sound ctx b) {r : Result} (hr : t.stage.result? = some r)
    (hn : r ≠ .nothing) (hm : b = true → ∀ p, t.Starts ctx p → p.conduct.IsMortal) :
    t.verdict ctx = r := by
  obtain ⟨p, hp⟩ := Stage.result?_eq_some_iff.1 hr
  obtain ⟨file, command, stage⟩ := t
  obtain rfl : stage = .finished p r := hp
  cases p with
  | none => exact (h.resolve_left fun hv => hn hv.1).symm
  | some p =>
    cases r with
    | nothing => exact absurd rfl hn
    | raised f => exact h
    | completed s =>
      obtain ⟨hs, -, hstopped, hv⟩ := h
      refine hv ?_
      cases hp : p.isStopped with
      | false => rfl
      | true => exact absurd (hm (hstopped hp).1 p hs) (hstopped hp).2

/-- A section comes of a process that was started for it and has ended, if of any. A cancellation
has stopped it only if a kill does not decide how it ends. -/
theorem process_of_completed (h : t.Sound ctx b) (hr : t.stage.result? = some (.completed s))
    (hp : t.stage.process? = some p) :
    t.Starts ctx p ∧ p.exited = true ∧ (p.isStopped = true → ¬ p.conduct.IsMortal) := by
  obtain ⟨q, hq⟩ := Stage.result?_eq_some_iff.1 hr
  obtain ⟨file, command, stage⟩ := t
  obtain rfl : stage = .finished q (.completed s) := hq
  obtain rfl : q = some p := hp
  obtain ⟨hs, hx, hstopped, -⟩ := h
  exact ⟨hs, hx, fun hp => (hstopped hp).2⟩

end Sound
end Task
end LintRun.Analysis
