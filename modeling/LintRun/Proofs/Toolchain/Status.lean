import Mathlib
import LintRun.Proofs.Files.Tree
import LintRun.Proofs.Toolchain.Resolution

/-!
# Proofs — Toolchain — The status that a resolution leaves

How far the toolchain has come that a resolution leaves behind, whether it gives it or fails.

* `Resolver.Chooses`: the activation of a version is begun.
* `Resolver.Ends.not_chooses`: a resolution that ends earlier begins none.
* `Resolver.Ends.status_cases`: how an activation is left, if one is begun.
* `Resolver.resolution_leaves_status`: the status after every resolution. It stays in transition
  exactly if the shell of an activation cannot be started.
-/

namespace LintRun.Resolver

variable {r : Resolver} {products : Path} {before : Nat} {outcome : Outcome Toolchain}
  {scripts : List String}
  {last : Toolchain}

/-- The shell of an activation answers, be it that it cannot be started. -/
def Activates (r : Resolver) (products : Path) (before : Nat)
    (answer : Except ShellFault ShellResult) : Prop :=
  ∃ version, r.Chooses products before version ∧
    r.answer products before 2 (setupCommands r.product version) = answer

/-- Only one answer is given to an activation. -/
theorem Activates.iff_eq {answer other : Except ShellFault ShellResult}
    (h : r.Activates products before answer) :
    r.Activates products before other ↔ other = answer := by
  refine ⟨fun h' => ?_, fun e => e ▸ h⟩
  obtain ⟨version, hchooses, rfl⟩ := h
  obtain ⟨version', hchooses', rfl⟩ := h'
  rw [hchooses.unique hchooses']

theorem Activates.exists_chooses {answer : Except ShellFault ShellResult}
    (h : r.Activates products before answer) :
    ∃ version, r.Chooses products before version :=
  ⟨h.choose, h.choose_spec.1⟩

namespace Ends

/-- **A resolution that has run fewer than three scripts has begun no activation**, and gives
nothing. -/
theorem not_chooses (h : r.Ends products before outcome scripts last)
    (hscripts : scripts.length < 3) :
    last.status = .unactivated ∧ (∀ version, ¬ r.Chooses products before version) ∧
    ∀ t, outcome ≠ .ok t := by
  -- an activation is begun after all other steps, and each of these ways fails in one of them
  cases h with
  | untested h | noScript h =>
    refine ⟨rfl, ?_, fun _ h => by cases h⟩
    rintro version ⟨_, _, ⟨⟨hfile, _⟩, _⟩, _⟩
    cases hfile.symm.trans h
  | setupNotStarted h hf =>
    refine ⟨rfl, ?_, fun _ h => by cases h⟩
    rintro version ⟨_, _, ⟨⟨_, _, hr, _⟩, _⟩, _⟩
    cases hr.symm.trans hf
  | setupFailed h hr hs =>
    refine ⟨rfl, ?_, fun _ h => by cases h⟩
    rintro version ⟨_, _, ⟨⟨_, _, hr', hs'⟩, _⟩, _⟩
    cases hr'.symm.trans hr
    exact hs hs'
  | listingNotStarted h hf =>
    refine ⟨rfl, ?_, fun _ h => by cases h⟩
    rintro version ⟨_, _, ⟨_, _, hr, _⟩, _⟩
    cases hr.symm.trans hf
  | noneListed h =>
    refine ⟨rfl, ?_, fun _ h => by cases h⟩
    rintro version ⟨_, hne, hlists, _⟩
    exact hne (hlists.unique h)
  | notListed hne h hp hv =>
    refine ⟨rfl, ?_, fun _ h => by cases h⟩
    rintro version ⟨_, _, hlists, hselects⟩
    obtain rfl := hlists.unique h
    simp only [Selects, hp] at hselects
    exact hv hselects.1
  | unordered hne h hp hf =>
    refine ⟨rfl, ?_, fun _ h => by cases h⟩
    rintro version ⟨_, _, hlists, hselects⟩
    obtain rfl := hlists.unique h
    simp only [Selects, hp] at hselects
    cases hselects.symm.trans hf
  | activationNotStarted | activationFailed | active => exact absurd hscripts (by simp)

/-- How a resolution leaves an activation that it has begun: it could not start the shell, the shell
has failed, or the toolchain is active. -/
theorem status_cases (h : r.Ends products before outcome scripts last)
    (hscripts : ¬ scripts.length < 3) :
    (∃ f, r.Activates products before (.error f) ∧ last.status = .activating ∧
        outcome = .error (notStarted products f)) ∨
      (∃ result, r.Activates products before (.ok result) ∧ result.status ≠ 0 ∧
        last.status = .failed ∧
        ∃ version, outcome = report (.activation version result.status none)) ∨
      ∃ result, r.Activates products before (.ok result) ∧ result.status = 0 ∧
        last.status = .active ∧
        outcome = .ok last := by
  cases h with
  | untested | noScript | setupNotStarted | setupFailed | listingNotStarted | noneListed |
    notListed | unordered =>
    exact absurd (by simp) hscripts
  | activationNotStarted h hf => exact .inl ⟨_, ⟨_, h, hf⟩, rfl, rfl⟩
  | activationFailed h hr hs => exact .inr (.inl ⟨_, ⟨_, h, hr⟩, hs, rfl, _, rfl⟩)
  | active h hr hs => exact .inr (.inr ⟨_, ⟨_, h, hr⟩, hs, rfl, rfl⟩)

end Ends

/-- **The status that a resolution leaves.** Whatever the resolver has done before, it remembers a
toolchain of its own afterwards. This is active exactly if the resolution gives it. It has failed
exactly if an activation was begun whose script has ended with another status than zero. It is not
activated exactly if no activation was begun, and then fewer than three scripts were run. It is left
in transition exactly if the shell of an activation could not be started, which is then the failure
of the resolution. -/
theorem resolution_leaves_status (r : Resolver) (products : Path) (s : Session) :
    let found := (r.resolve products).run s
    let before := s.scripts.length
    ∃ last, found.2.last = some last ∧
      (last.status = .active ↔ found.1 = .ok last) ∧ (∀ t, found.1 = .ok t → t = last) ∧
      (last.status = .failed ↔ ∃ result, r.Activates products before (.ok result) ∧
        result.status ≠ 0) ∧
      (last.status = .unactivated ↔ ∀ version, ¬ r.Chooses products before version) ∧
      (last.status = .unactivated ↔ found.2.scripts.length < before + 3) ∧
      (last.status = .activating ↔ ∃ f, r.Activates products before (.error f)) ∧
      ∀ f, r.Activates products before (.error f) → found.1 = .error (notStarted products f) := by
  intro found before
  obtain ⟨scripts, last, hends, hscripts, hlast⟩ := r.resolve_ends products s
  have hcount : found.2.scripts.length < before + 3 ↔ scripts.length < 3 := by
    rw [show found.2.scripts = s.scripts ++ scripts from hscripts, List.length_append]
    omega
  refine ⟨last, hlast, ?_⟩
  change r.Ends products before found.1 scripts last at hends
  rw [hcount]
  clear_value found before
  by_cases hfew : scripts.length < 3
  · obtain ⟨hstatus, hnever, hfails⟩ := hends.not_chooses hfew
    have hnone (answer : Except ShellFault ShellResult) : ¬ r.Activates products before answer :=
      fun ⟨version, h, _⟩ => hnever version h
    simp [hstatus, hnever, hfails, hnone, hfew]
  · obtain ⟨f, hf, hstatus, houtcome⟩ | ⟨result, hr, hs, hstatus, version, houtcome⟩ |
        ⟨result, hr, hs, hstatus, houtcome⟩ := hends.status_cases hfew
    · simp [hstatus, houtcome, hf.iff_eq, hf.exists_chooses, hfew]
    · simp [hstatus, houtcome, hr.iff_eq, hr.exists_chooses, hs, hfew, report]
    · simp [hstatus, houtcome, hr.iff_eq, hr.exists_chooses, hs, hfew, eq_comm]

/-- **A toolchain stays in transition** if the shell that is to activate it cannot be started. -/
theorem refused_activation_stays_in_transition :
    let products : Path := ⟨.absolute, ["p"]⟩
    let r : Resolver :=
      { shell := fun ran _ _ => match ran with
          | 1 => .ok { output := "\"clang\" \"v9\" \"Linux\"\n" }
          | 2 => .error (.refused (Refusal.noEntry.on "bash"))
          | _ => .ok {}
        tree := ⟨.directory [("p", .directory [("setup", .file [] false)])], []⟩ }
    let found := (r.resolve products).run {}
    found.1 = report (.environmentSetup products (.notStarted (Refusal.noEntry.on "bash"))) ∧
      found.2.last =
        some { productsDir := products, version := some "v9", status := .activating } := by
  intro products r found
  have hfile : r.tree.isFile (setupFile products) = .ok true :=
    FileTree.leadsTo_of_find? Node.isFile (.file [] false) (.inl rfl) (by decide)
      (by decide) (by decide) rfl
  simp only [found, resolve, Stateful.run_bind, run_remember, setUp, hfile, run_run]
  exact ⟨by cbv, by cbv⟩

end LintRun.Resolver
