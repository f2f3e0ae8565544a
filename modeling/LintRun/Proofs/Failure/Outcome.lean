import Mathlib
import LintRun.Failure.Problem

/-!
# Proofs — Failure — Steps that may fail

When steps one after the other succeed, and when they fail.

* `Outcome.bind_eq_ok_iff`, `Outcome.bind_eq_error_iff`: two steps.
* `Outcome.map_eq_ok_iff`: a step whose result is taken further.
* `Stateful.run_bind`: with a state, a step starts at the state that the one before it leaves,
  unless that one fails.
-/

namespace LintRun.Outcome

variable {ε α β : Type} {x : Except ε α} {e : ε} {b : β}

/-- Two steps succeed when the first one does, and the second one from what the first one gives. -/
theorem bind_eq_ok_iff {f : α → Except ε β} : x >>= f = .ok b ↔ ∃ a, x = .ok a ∧ f a = .ok b := by
  cases x <;> simp [bind, Except.bind]

/-- Two steps fail when the first one does, or the second one from what the first one gives. -/
theorem bind_eq_error_iff {f : α → Except ε β} :
    x >>= f = .error e ↔ x = .error e ∨ ∃ a, x = .ok a ∧ f a = .error e := by
  cases x <;> simp [bind, Except.bind]

/-- Taking a result further does not fail by itself. -/
theorem map_eq_ok_iff {f : α → β} : x.map f = .ok b ↔ ∃ a, x = .ok a ∧ f a = b := by
  cases x <;> simp [Except.map]

end LintRun.Outcome

namespace LintRun.Stateful

variable {ε σ α β : Type}

/-- A step is taken from the state that the one before it leaves, unless that one fails. -/
@[simp] theorem run_bind (x : ExceptT ε (StateM σ) α) (f : α → ExceptT ε (StateM σ) β) (s : σ) :
    (x >>= f).run s =
      match x.run s with
      | (.ok a, s') => (f a).run s'
      | (.error e, s') => (.error e, s') := by
  show (match x.run s with | (a, s') => (ExceptT.bindCont f a) s') = _
  rcases x.run s with ⟨_ | _, _⟩ <;> rfl

/-- A step that only gives a value leaves the state as it is. -/
@[simp] theorem run_pure (a : α) (s : σ) : (pure a : ExceptT ε (StateM σ) α).run s = (.ok a, s) :=
  rfl

/-- A change of the state does not fail. -/
@[simp] theorem run_modify (f : σ → σ) (s : σ) :
    (modify f : ExceptT ε (StateM σ) PUnit).run s = (.ok ⟨⟩, f s) := rfl

@[simp] theorem run_get (s : σ) : (get : ExceptT ε (StateM σ) σ).run s = (.ok s, s) := rfl

end LintRun.Stateful
