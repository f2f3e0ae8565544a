import Mathlib
import LintRun.Proofs.Analysis.Crew

/-!
# Proofs — Analysis — Cancellation

A process is there before anybody keeps track of it, so a canceller can miss it when it looks which
processes are tracked. The task that started it looks at the flag again before it waits, and the
flag is up by then: what a canceller does not find kills itself.

* `Task.Change.waiting`: under the raised flag, whatever a kill brings about holds of every process
  that comes to be waited for.
* `Crew.Covers`: every process that is waited for has ended, was killed, or is on a list of targets.
* `Crew.IsWatchful`: every canceller that has looked covers the crew with the targets it still has.
* `Crew.cancel_misses_no_process`: cancelling misses no process, in any order of moves.
-/

namespace LintRun.Analysis

/-- **Under the raised flag no process is waited for untouched.** Let `P` hold of every process that
was killed and last until its end. If it holds of the process that a task waits for, it does so
after every move. -/
theorem Task.Change.waiting {ctx : Context} {t t' : Task} {P : Process → Prop}
    (hkill : ∀ (reason : KillReason) (p : Process), P (p.kill reason)) (hexit : ∀ p, P p → P p.exit)
    (h : ∀ p e, t.stage = .waiting p e → P p) (hc : Change ctx true t t') :
    ∀ p e, t'.stage = .waiting p e → P p := by
  intro q e hq
  cases hc with
  | rest => exact h q e hq
  | exit _ _ _ =>
    obtain ⟨p, hp, rfl⟩ := Stage.eq_waiting_of_mapProcess _ hq
    exact hexit p (h p e hp)
  | kill _ _ _ _ =>
    obtain ⟨p, -, rfl⟩ := Stage.eq_waiting_of_mapProcess _ hq
    exact hkill _ p
  | advance =>
    obtain ⟨file, command, stage⟩ := t
    cases stage with
    | tracked p =>
      -- the second look at the flag
      simp only [Task.advance, if_true, Stage.waiting.injEq] at hq
      obtain ⟨rfl, -⟩ := hq
      exact hkill _ p
    | waiting p e' =>
      obtain ⟨f, -, hstep⟩ | ⟨-, -, -, hstep⟩ | ⟨-, -, hstep⟩ :=
        Task.advance_waiting_cases ctx true file command p e' <;> rw [hstep] at hq <;> cases hq
      exact hkill _ p
    | queued => simp [Task.advance] at hq
    | cleared => simp only [Task.advance] at hq; split at hq <;> simp at hq
    | spawned p => simp [Task.advance] at hq
    | left p how => cases how <;> simp [Task.advance] at hq
    | concluding p e' => simp only [Task.advance] at hq; split_ifs at hq
    | finished p r => simp [Task.advance] at hq

/-- Under the raised flag, a task that has not begun never starts a process. -/
theorem Task.Change.unbegun {ctx : Context} {t t' : Task}
    (h : t.stage = .queued ∨ t.stage = .finished none .nothing) (hc : Change ctx true t t') :
    t'.stage = .queued ∨ t'.stage = .finished none .nothing := by
  cases hc with
  | rest => exact h
  | advance => rcases h with h | h <;> simp [Task.advance, h]
  | exit p hp _ | kill p hp _ _ => rcases h with h | h <;> simp [h, Stage.process?] at hp

namespace Crew

variable {ctx : Context} {c c' : Crew} {i k : Nat}

/-- Every process that is waited for has ended or was killed, those of the tasks in `rest` aside. -/
def Covers (c : Crew) (rest : List Nat) : Prop :=
  ∀ i t, c.tasks[i]? = some t → i ∉ rest →
    ∀ p e, t.stage = .waiting p e → p.exited = true ∨ p.isKilled = true

/-- Every canceller that has looked which processes are tracked covers the crew with the targets it
still has. -/
def IsWatchful (c : Crew) : Prop := ∀ rest, Canceller.killing rest ∈ c.cancellers → c.Covers rest

theorem Covers.changes {rest : List Nat} (h : c.Covers rest) (hc : Changes ctx true c c') :
    c'.Covers rest := by
  intro i t' ht' hi
  obtain ⟨t, ht, hchange⟩ := hc.of_after ht'
  exact hchange.waiting (fun _ _ => .inr (Process.isKilled_kill _ _))
    (fun _ _ => .inl rfl) (h i t ht hi)

/-- Whoever looks finds every process that is waited for. -/
theorem covers_tracked (c : Crew) : c.Covers c.tracked := by
  intro i t ht hi p e hp
  refine absurd ?_ hi
  have hlt : i < c.tasks.length := (List.getElem?_eq_some_iff.1 ht).1
  have hs : c.stage? i = some (.waiting p e) := by rw [stage?, ht, Option.map_some, hp]
  simp [tracked, hs, hlt, Stage.isTracked]

/-- The task that a kill is aimed at is covered by it. -/
theorem Covers.kill (ctx : Context) {rest : List Nat} (h : c.Covers (i :: rest)) :
    (c.kill i).Covers rest := by
  intro j t' ht' hj p e hp
  by_cases hij : j = i
  · subst hij
    obtain ⟨heq, hx⟩ | ⟨t, q, ht, -, -, heq⟩ := kill_cases c j
    · rw [heq] at ht'
      exact .inl (hx t' p ht' (by rw [hp]; rfl))
    · have hlt : j < c.tasks.length := (List.getElem?_eq_some_iff.1 ht).1
      obtain rfl : _ = t' := by simpa [heq, setTask, hlt] using ht'
      obtain ⟨q, -, rfl⟩ := Stage.eq_waiting_of_mapProcess _ hp
      exact .inr (Process.isKilled_kill _ _)
  · exact (h.changes (kill_changes ctx c i)) j t' ht' (by simp [hij, hj]) p e hp

/-- **A move leaves no process behind.** -/
theorem IsWatchful.step (h : c.IsWatchful) (m : Move) : (c.step ctx m).IsWatchful := by
  intro rest hrest
  -- a canceller that had looked before the move
  have old (hmem : Canceller.killing rest ∈ c.cancellers) : (c.step ctx m).Covers rest := by
    have hc := step_changes ctx c m
    rw [cancelled_of_mem hmem rfl] at hc
    exact (h rest hmem).changes hc
  cases m with
  | work i => exact old (by simpa [Crew.step] using hrest)
  | exit i => exact old (by simpa [Crew.step] using hrest)
  | call => exact old (by simpa [Crew.step, call] using hrest)
  | cancel k =>
    change Canceller.killing rest ∈ (c.cancelStep k).cancellers at hrest
    change (c.cancelStep k).Covers rest
    obtain ⟨-, e⟩ | ⟨-, e⟩ | ⟨i, rest', hk, e⟩ | ⟨-, e⟩ := cancelStep_cases c k <;> rw [e] at hrest
    · rcases List.mem_or_eq_of_mem_set hrest with hmem | heq
      · exact old hmem
      · cases heq
    · rcases List.mem_or_eq_of_mem_set hrest with hmem | heq
      · exact old hmem
      · cases heq
        rw [e]
        exact c.covers_tracked
    · rw [cancellers_kill] at hrest
      rcases List.mem_or_eq_of_mem_set hrest with hmem | heq
      · exact old hmem
      · cases heq
        rw [e]
        exact Covers.kill ctx (h (i :: rest) (List.mem_of_getElem? hk))
    · exact old hrest

theorem IsWatchful.run (h : c.IsWatchful) (moves : List Move) : (c.run ctx moves).IsWatchful :=
  run_induction (fun _ m h => h.step m) h moves

/-- Under the raised flag, what every change of a task keeps lasts. -/
theorem run_keeps {P : Task → Prop} (hP : ∀ t t', P t → Task.Change ctx true t t' → P t')
    (hc : c.cancelled = true) (h : ∃ t, c.tasks[i]? = some t ∧ P t) (moves : List Move) :
    ∃ t, (c.run ctx moves).tasks[i]? = some t ∧ P t := by
  refine (run_induction (P := fun c => c.cancelled = true ∧ ∃ t, c.tasks[i]? = some t ∧ P t)
    ?_ ⟨hc, h⟩ moves).2
  rintro c m ⟨hc, t, ht, hp⟩
  have hm := step_changes ctx c m
  rw [hc] at hm
  obtain ⟨t', ht', hchange⟩ := hm.change ht
  exact ⟨cancelled_step m hc, t', ht', hP t t' hp hchange⟩

theorem mem_of_hasCancelled (h : c.hasCancelled k = true) :
    Canceller.killing [] ∈ c.cancellers := by
  obtain ⟨q, hq, hd⟩ := (Option.any_eq_true _ _).1 h
  cases q with
  | idle | flagged => cases hd
  | killing rest =>
    cases rest with
    | nil => exact List.mem_of_getElem? hq
    | cons i rest => cases hd

/-- **Cancelling misses no process.** Tasks and any number of cancellers take their steps in any
order. Once a canceller is done, the flag is up and every process that a task waits for has ended or
was killed. Once the flag is up, a process that is not waited for yet is killed before it is, and a
task that has not looked at the flag yet never starts a process. -/
theorem cancel_misses_no_process (ctx : Context) (tasks : List Task) (before after : List Move) :
    let c := run ctx { tasks } before
    let c' := run ctx c after
    ((∃ k, c.hasCancelled k = true) → c.cancelled = true ∧
      ∀ i p expired, c.stage? i = some (.waiting p expired) → p.exited = true ∨ p.isKilled = true) ∧
    (c.cancelled = true → ∀ i p, c.stage? i = some (.spawned p) ∨ c.stage? i = some (.tracked p) →
      ∀ q expired, c'.stage? i = some (.waiting q expired) → q.isKilled = true) ∧
    (c.cancelled = true → ∀ i, c.stage? i = some .queued →
      c'.stage? i = some .queued ∨ c'.stage? i = some (.finished none .nothing)) := by
  intro c c'
  have hw : c.IsWatchful := IsWatchful.run (fun rest h => by cases h) before
  refine ⟨fun ⟨k, hk⟩ => ?_, fun hc i p hp q e hq => ?_, fun hc i hq => ?_⟩
  · have hmem := mem_of_hasCancelled hk
    refine ⟨cancelled_of_mem hmem rfl, fun i p e hp => ?_⟩
    obtain ⟨t, ht, hs⟩ := stage?_eq_some_iff.1 hp
    exact hw [] hmem i t ht (List.not_mem_nil) p e hs
  · -- it is not waited for yet
    have hnot : ∃ t, c.tasks[i]? = some t ∧ ∀ p e, t.stage = .waiting p e → p.isKilled = true := by
      obtain ⟨t, ht, hs⟩ | ⟨t, ht, hs⟩ := hp.imp stage?_eq_some_iff.1 stage?_eq_some_iff.1
      · exact ⟨t, ht, by simp [hs]⟩
      · exact ⟨t, ht, by simp [hs]⟩
    obtain ⟨t, ht, hkilled⟩ := run_keeps
      (fun _ _ ht hchange => hchange.waiting (fun _ _ => Process.isKilled_kill _ _)
        (fun _ h => h) ht) hc hnot after
    obtain ⟨t', ht', hs'⟩ := stage?_eq_some_iff.1 hq
    obtain rfl : t = t' := Option.some.inj (ht.symm.trans ht')
    exact hkilled q e hs'
  · obtain ⟨t, ht, hs⟩ := stage?_eq_some_iff.1 hq
    obtain ⟨t', ht', hs'⟩ := run_keeps (fun _ _ ht hchange => hchange.unbegun ht) hc
      ⟨t, ht, .inl hs⟩ after
    exact hs'.imp (fun h => stage?_eq_some_iff.2 ⟨t', ht', h⟩)
      fun h => stage?_eq_some_iff.2 ⟨t', ht', h⟩

/-- Somebody cancels while the process of the second of three tasks is there and not tracked yet. -/
theorem cancel_misses_no_untracked_process :
    let ctx : Context := ⟨fun _ _ _ => .process {}, "lint", [], none⟩
    let c := run ctx { tasks := List.replicate 3 ⟨.here, ["lint"], .queued⟩ }
      (List.replicate 4 (.work 0) ++ List.replicate 2 (.work 1) ++
        .call :: List.replicate 3 (.cancel 0))
    let c' := run ctx c [.work 1, .work 1, .work 2]
    (∃ k, c.hasCancelled k = true) ∧
    (∃ p, c.stage? 0 = some (.waiting p false) ∧ (p.exited = true ∨ p.isKilled = true)) ∧
    (∃ p q, c.stage? 1 = some (.spawned p) ∧ c'.stage? 1 = some (.waiting q false) ∧
      q.isKilled = true) ∧
    c.stage? 2 = some .queued ∧
      (c'.stage? 2 = some .queued ∨ c'.stage? 2 = some (.finished none .nothing)) := by
  intro ctx c c'
  obtain ⟨hdone, hnew, hoff⟩ := cancel_misses_no_process ctx
    (List.replicate 3 ⟨.here, ["lint"], .queued⟩)
    (List.replicate 4 (.work 0) ++ List.replicate 2 (.work 1) ++
      .call :: List.replicate 3 (.cancel 0))
    [.work 1, .work 1, .work 2]
  have hk : c.hasCancelled 0 = true := by decide
  have h0 : c.stage? 0 =
      some (.waiting { conduct := {}, kills := [⟨.cancellation, true⟩] } false) := by decide
  have h1 : c.stage? 1 = some (.spawned { conduct := {} }) := by decide
  have h1' : c'.stage? 1 =
      some (.waiting { conduct := {}, kills := [⟨.cancellation, true⟩] } false) := by decide
  have h2 : c.stage? 2 = some .queued := by decide
  obtain ⟨hflag, hwait⟩ := hdone ⟨0, hk⟩
  exact ⟨⟨0, hk⟩, ⟨_, h0, hwait 0 _ false h0⟩,
    ⟨_, _, h1, h1', hnew hflag 1 _ (.inl h1) _ false h1'⟩, h2, hoff hflag 2 h2⟩

end Crew
end LintRun.Analysis
