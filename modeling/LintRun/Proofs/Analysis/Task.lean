import Mathlib
import LintRun.Analysis.Crew

/-!
# Proofs — Analysis — Tasks

What can happen to one task.

* `Stage.rank`: the number of steps that are at most left. Every step of an unfinished task lowers
  it.
* `Task.Change`: everything that one move of anybody does to a task. It changes neither the file nor
  the command, and a result is final.
-/

namespace LintRun.Analysis

/-! ### Stages under a change of their process -/

namespace Stage

variable {s : Stage} (f : Process → Process)

/-- What is done to a process does not touch a result. -/
@[simp] theorem result?_mapProcess : (s.mapProcess f).result? = s.result? := by
  cases s <;> rfl

/-- A task waits for a changed process only if it waited for the process. -/
theorem eq_waiting_of_mapProcess {q : Process} {e : Bool} (h : s.mapProcess f = .waiting q e) :
    ∃ p, s = .waiting p e ∧ q = f p := by
  cases s <;> simp [mapProcess] at h
  case waiting p e' => exact ⟨p, by rw [h.2], h.1.symm⟩

/-- A result is there when the task is finished, and only then. -/
theorem result?_eq_some_iff {r : Result} : s.result? = some r ↔ ∃ p, s = .finished p r := by
  cases s <;> simp [result?]

/-- The number of steps that are at most left. -/
def rank : Stage → Nat
  | .queued => 8
  | .cleared => 7
  | .spawned _ => 6
  | .tracked _ => 5
  | .waiting _ expired => if expired then 3 else 4
  | .left _ _ => 2
  | .concluding _ _ => 1
  | .finished _ _ => 0

/-- What is done to a process takes no step of its task. -/
@[simp] theorem rank_mapProcess : (s.mapProcess f).rank = s.rank := by
  cases s <;> rfl

/-- A task takes eight steps at most. -/
theorem rank_le (s : Stage) : s.rank ≤ 8 := by
  cases s with
  | waiting p e => cases e <;> simp [rank]
  | _ => simp [rank]

/-- All steps are left to a task that is queued, and to no other one. -/
theorem rank_eq_eight_iff : s.rank = 8 ↔ s = .queued := by
  cases s with
  | waiting p e => cases e <;> simp [rank]
  | _ => simp [rank]

/-- No step is left to a finished task, and to no other one. -/
theorem rank_eq_zero_iff : s.rank = 0 ↔ s.isFinished = true := by
  cases s with
  | waiting p e => cases e <;> simp [rank, isFinished, result?]
  | _ => simp [rank, isFinished, result?]

/-- A task is busy from its first step until it is finished. -/
theorem isBusy_iff : s.isBusy = true ↔ s.rank ≠ 8 ∧ s.rank ≠ 0 := by
  rw [Ne, rank_eq_eight_iff, Ne, rank_eq_zero_iff]
  simp [isBusy]

end Stage

/-! ### Waits -/

namespace Conduct

variable {c : Conduct}

/-- Nothing stands in the way of the first wait. -/
theorem raises?_false_eq_none :
    c.raises? false = none ↔ c.interrupts = false ∧ c.waitFault = none := by
  cases h : c.interrupts <;> simp [raises?, h]

/-- The first wait is interrupted, however long it would be. -/
theorem raises?_false_eq_interrupted :
    c.raises? false = some .interrupted ↔ c.interrupts = true := by
  cases h : c.interrupts <;> simp [raises?, h]

end Conduct

/-! ### Processes under kills -/

namespace Process

variable (p : Process) (reason : KillReason)

@[simp] theorem conduct_kill : (p.kill reason).conduct = p.conduct := rfl
@[simp] theorem exited_kill : (p.kill reason).exited = p.exited := rfl
@[simp] theorem conduct_exit : p.exit.conduct = p.conduct := rfl
@[simp] theorem kills_exit : p.exit.kills = p.kills := rfl

@[simp] theorem isKilled_kill : (p.kill reason).isKilled = true := by
  simp [isKilled, kill]

/-- A kill strikes a process that has not exited. -/
@[simp] theorem isStruck_kill : (p.kill reason).isStruck = (p.isStruck || !p.exited) := by
  simp [isStruck, kill]

/-- A wait that is over stops no process on behalf of a cancellation. -/
@[simp] theorem isStopped_kill_expiry : (p.kill .expiry).isStopped = p.isStopped := by
  simp [isStopped, kill]

/-- A cancellation stops a process that has not exited. -/
@[simp] theorem isStopped_kill_cancellation :
    (p.kill .cancellation).isStopped = (p.isStopped || !p.exited) := by
  simp [isStopped, kill]

/-- A cancellation that reaches a process alive is a kill that does. -/
theorem isStruck_of_isStopped {p : Process} (h : p.isStopped = true) : p.isStruck = true := by
  simp only [isStopped, isStruck, List.any_eq_true, Bool.and_eq_true] at h ⊢
  obtain ⟨k, hk, hw, -⟩ := h
  exact ⟨k, hk, hw⟩

end Process

/-! ### What one move does to a task -/

/-- A task before and after one move of anybody, under the flag `cancelled`. A kill comes from a
canceller, and so under the raised flag. -/
inductive Task.Change (ctx : Context) (cancelled : Bool) (t : Task) : Task → Prop where
  | rest : Change ctx cancelled t t
  | advance : Change ctx cancelled t (t.advance ctx cancelled).1
  | exit (p : Process) (hp : t.stage.process? = some p) (he : Task.expires ctx p = false) :
      Change ctx cancelled t { t with stage := t.stage.mapProcess Process.exit }
  | kill (p : Process) (hp : t.stage.process? = some p) (he : p.exited = false)
      (hc : cancelled = true) :
      Change ctx cancelled t { t with stage := t.stage.mapProcess (Process.kill .cancellation) }

namespace Task

variable {ctx : Context} {b : Bool} {t t' : Task}

/-- A task keeps its file. -/
@[simp] theorem file_advance (t : Task) : (t.advance ctx b).1.file = t.file := by
  unfold advance; split <;> (try split) <;> (try split) <;> rfl

/-- A task keeps its command. -/
@[simp] theorem command_advance (t : Task) : (t.advance ctx b).1.command = t.command := by
  unfold advance; split <;> (try split) <;> (try split) <;> rfl

/-- What a wait leads to: a fault, the kill of a process whose time is over, or the end of the
process. -/
theorem advance_waiting_cases (ctx : Context) (b : Bool) (file : Path) (command : List String)
    (p : Process) (expired : Bool) :
    (∃ f, p.conduct.raises? expired = some f ∧
      advance ctx b ⟨file, command, .waiting p expired⟩ =
        (⟨file, command, .left p (.raised f)⟩, [])) ∨
    (p.conduct.raises? expired = none ∧ expired = false ∧ expires ctx p = true ∧
      advance ctx b ⟨file, command, .waiting p expired⟩ =
        (⟨file, command, .waiting (p.kill .expiry) true⟩, [.killed file])) ∨
    (p.conduct.raises? expired = none ∧ (expired = false → expires ctx p = false) ∧
      advance ctx b ⟨file, command, .waiting p expired⟩ =
        (⟨file, command, .left p.exit (.ended expired)⟩, [])) := by
  cases hraises : p.conduct.raises? expired with
  | some f => exact .inl ⟨f, rfl, by simp [advance, hraises]⟩
  | none =>
    cases expired with
    | true => exact .inr (.inr ⟨rfl, nofun, by simp [advance, hraises]⟩)
    | false =>
      cases hexpires : expires ctx p with
      | true => exact .inr (.inl ⟨rfl, rfl, rfl, by simp [advance, hraises, hexpires]⟩)
      | false => exact .inr (.inr ⟨rfl, fun _ => rfl, by simp [advance, hraises, hexpires]⟩)

/-- A task that is finished takes no step. -/
theorem advance_of_isFinished (h : t.stage.isFinished = true) : (t.advance ctx b).1 = t := by
  obtain ⟨file, command, stage⟩ := t
  cases stage <;> simp [Stage.isFinished, Stage.result?] at h
  rfl

/-- A step brings an unfinished task nearer to its end. -/
theorem rank_advance (h : t.stage.isFinished = false) :
    (t.advance ctx b).1.stage.rank < t.stage.rank := by
  obtain ⟨file, command, stage⟩ := t
  cases stage with
  | finished p r => simp [Stage.isFinished, Stage.result?] at h
  | queued => simp only [advance]; split <;> simp [Stage.rank]
  | cleared => simp only [advance]; split <;> simp [Stage.rank]
  | spawned p => simp [advance, Stage.rank]
  | tracked p => simp only [advance]; split <;> simp [Stage.rank]
  | waiting p e =>
    obtain ⟨f, -, h⟩ | ⟨-, rfl, -, h⟩ | ⟨-, -, h⟩ :=
      advance_waiting_cases ctx b file command p e <;> rw [h]
    · cases e <;> simp [Stage.rank]
    · simp [Stage.rank]
    · cases e <;> simp [Stage.rank]
  | left p how => cases how <;> simp [advance, Stage.rank]
  | concluding p e => simp only [advance]; split <;> simp [Stage.rank]

namespace Change

theorem file (h : Change ctx b t t') : t'.file = t.file := by
  cases h <;> simp

theorem command (h : Change ctx b t t') : t'.command = t.command := by
  cases h <;> simp

/-- A result is final. -/
theorem result? (h : Change ctx b t t') {r : Result} (hr : t.stage.result? = some r) :
    t'.stage.result? = some r := by
  cases h with
  | rest => exact hr
  | advance => rw [advance_of_isFinished (by simp [Stage.isFinished, hr]), hr]
  | exit | kill => simpa using hr

end Change
end Task
end LintRun.Analysis
