import Mathlib
import LintRun.Proofs.Failure.Outcome
import LintRun.Proofs.Toolchain.Version
import LintRun.Toolchain.Resolver

/-!
# Proofs — Toolchain — Resolution

How a resolution ends, from what the file tree and the shell answer.

* `Resolver.Ends`: the ways in which a resolution ends, each with its outcome, the scripts that it
  ran and the toolchain that it worked on.
* `Resolver.resolve_ends`: every resolution ends in one of these ways, whatever the resolver has
  done before.
-/

namespace LintRun

/-- The versions that a shell has listed, none if it failed. -/
def ShellResult.listed (result : ShellResult) : List String :=
  if result.status = 0 then Listing.versions result.output else []

namespace Resolver

variable {r : Resolver} {products : Path} {before : Nat} {s : Session}

/-- What the shell answers to a script of a resolution that has run so many scripts, in a session
with so many scripts before it. -/
def answer (r : Resolver) (products : Path) (before ran : Nat) (commands : List String) :
    Except ShellFault ShellResult :=
  r.shell (before + ran) (script products commands) r.environment

/-- A resolution fails because a shell could not be started. -/
def notStarted (products : Path) : ShellFault → Failure
  | .refused f => .problem (.environmentSetup products (.notStarted f))
  | .impossible f => .fault f

/-- The setup script is there and has succeeded. -/
def IsSetUp (r : Resolver) (products : Path) (before : Nat) : Prop :=
  r.tree.isFile (setupFile products) = .ok true ∧
    ∃ result, r.answer products before 0 [] = .ok result ∧ result.status = 0

/-- The products directory is set up, and these versions are listed. -/
def Lists (r : Resolver) (products : Path) (before : Nat) (versions : List String) : Prop :=
  r.IsSetUp products before ∧
    ∃ result, r.answer products before 1 [listCommand r.product] = .ok result ∧
      result.listed = versions

/-- Of some versions this one is set up: the pinned one, which has to be among them, or the
greatest. -/
def Selects (r : Resolver) (versions : List String) (version : String) : Prop :=
  match r.pinned with
  | some v => v ∈ versions ∧ version = v
  | none => Version.select versions = .ok version

/-- Versions are listed, and this one of them is set up. -/
def Chooses (r : Resolver) (products : Path) (before : Nat) (version : String) : Prop :=
  ∃ versions, versions ≠ [] ∧ r.Lists products before versions ∧ r.Selects versions version

/-- The text of what a failed setup script complained about. -/
def complaintOf (result : ShellResult) : String :=
  String.ofList (Text.trim (result.errors.getD "").toList)

/-- The toolchain that a version is about to become. -/
def begun (products : Path) (version : String) : Toolchain :=
  { productsDir := products, version := some version, status := .activating }

/-- The toolchain of a version whose setup has left an environment. -/
def activated (r : Resolver) (products : Path) (version : String) (result : ShellResult) :
    Toolchain :=
  { productsDir := products, version := some version, status := .active
    environment := Environment.changes r.environment (Environment.ofDump result.output) }

/-- **The ways in which a resolution ends**: what comes of it, the scripts that it ran, and the
toolchain that it worked on last. -/
inductive Ends (r : Resolver) (products : Path) (before : Nat) :
    Outcome Toolchain → List String → Toolchain → Prop where
  /-- Nobody can tell whether there is a setup script. -/
  | untested {f : SystemFault} (h : r.tree.isFile (setupFile products) = .error f) :
      Ends r products before (stop (.system f)) [] { productsDir := products }
  | noScript (h : r.tree.isFile (setupFile products) = .ok false) :
      Ends r products before (report (.environmentSetup products (.noScript (setupFile products))))
        []
        { productsDir := products }
  | setupNotStarted {f : ShellFault} (h : r.tree.isFile (setupFile products) = .ok true)
      (hf : r.answer products before 0 [] = .error f) :
      Ends r products before (.error (notStarted products f)) [script products []]
        { productsDir := products }
  | setupFailed {result : ShellResult} (h : r.tree.isFile (setupFile products) = .ok true)
      (hr : r.answer products before 0 [] = .ok result) (hs : result.status ≠ 0) :
      Ends r products before
        (report (.environmentSetup products (.failed result.status (complaintOf result))))
        [script products []] { productsDir := products }
  | listingNotStarted {f : ShellFault} (h : r.IsSetUp products before)
      (hf : r.answer products before 1 [listCommand r.product] = .error f) :
      Ends r products before (.error (notStarted products f))
        [script products [], script products [listCommand r.product]] { productsDir := products }
  | noneListed (h : r.Lists products before []) :
      Ends r products before (report (.missingToolchain (.noneListed r.product products)))
        [script products [], script products [listCommand r.product]] { productsDir := products }
  | notListed {versions : List String} {v : String} (hne : versions ≠ [])
      (h : r.Lists products before versions)
      (hp : r.pinned = some v) (hv : v ∉ versions) :
      Ends r products before (report (.missingToolchain (.notListed r.product v products versions)))
        [script products [], script products [listCommand r.product]] { productsDir := products }
  /-- The versions that are listed cannot be ordered. -/
  | unordered {versions : List String} {f : Failure} (hne : versions ≠ [])
      (h : r.Lists products before versions)
      (hp : r.pinned = none) (hf : Version.select versions = .error f) :
      Ends r products before (.error f)
        [script products [], script products [listCommand r.product]]
        { productsDir := products }
  | activationNotStarted {version : String} {f : ShellFault} (h : r.Chooses products before version)
      (hf : r.answer products before 2 (setupCommands r.product version) = .error f) :
      Ends r products before (.error (notStarted products f))
        [script products [], script products [listCommand r.product],
          script products (setupCommands r.product version)]
        (begun products version)
  | activationFailed {version : String} {result : ShellResult}
      (h : r.Chooses products before version)
      (hr : r.answer products before 2 (setupCommands r.product version) = .ok result)
      (hs : result.status ≠ 0) :
      Ends r products before (report (.activation version result.status none))
        [script products [], script products [listCommand r.product],
          script products (setupCommands r.product version)]
        { begun products version with status := .failed }
  | active {version : String} {result : ShellResult} (h : r.Chooses products before version)
      (hr : r.answer products before 2 (setupCommands r.product version) = .ok result)
      (hs : result.status = 0) :
      Ends r products before (.ok (r.activated products version result))
        [script products [], script products [listCommand r.product],
          script products (setupCommands r.product version)]
        (r.activated products version result)

/-- What comes of a resolution, and the session that it leaves. -/
def EndsWith (r : Resolver) (products : Path) (s : Session) (found : Outcome Toolchain × Session) :
    Prop :=
  ∃ scripts last, r.Ends products s.scripts.length found.1 scripts last ∧
    found.2.scripts = s.scripts ++ scripts ∧
    found.2.last = some last

/-! ### What each step does -/

/-- The session after one more script. -/
def Session.ran (s : Session) (text : String) : Session :=
  { s with log := s.log ++ [.scriptRun text], scripts := s.scripts ++ [text] }

@[simp] theorem run_note (e : Event) (s : Session) :
    (note e).run s = (.ok ⟨⟩, { s with log := s.log ++ [e] }) := rfl

/-- What is remembered replaces what was remembered before. -/
@[simp] theorem run_remember (t : Toolchain) (s : Session) :
    (remember t).run s = (.ok ⟨⟩, { s with last := some t }) := rfl

@[simp] theorem run_lift {α : Type} (x : Outcome α) (s : Session) : (lift x).run s = (x, s) := by
  cases x <;> rfl

/-- A session runs a script, and takes down which one. -/
theorem run_run (r : Resolver) (products : Path) (commands : List String) (s : Session) :
    (r.run products commands).run s =
      ((r.answer products s.scripts.length 0 commands).mapError (notStarted products),
        s.ran (script products commands)) := by
  simp only [run, Stateful.run_bind, run_note, Stateful.run_get, Stateful.run_modify,
    answer, Nat.add_zero]
  cases r.shell s.scripts.length (script products commands) r.environment with
  | ok result => rfl
  | error f => cases f <;> rfl

/-- The scripts of a resolution are counted from its beginning. -/
theorem answer_eq {s' : Session} {scripts : List String} (h : s'.scripts = s.scripts ++ scripts)
    (ran : Nat) (commands : List String) :
    r.answer products s'.scripts.length ran commands =
      r.answer products s.scripts.length (scripts.length + ran) commands := by
  rw [answer, answer, h, List.length_append, Nat.add_assoc]

theorem setUp_cases (r : Resolver) (products : Path) (s : Session) :
    (∃ f, r.tree.isFile (setupFile products) = .error f ∧
      (r.setUp products).run s = (stop (.system f), s)) ∨
    (r.tree.isFile (setupFile products) = .ok false ∧
      (r.setUp products).run s =
        (report (.environmentSetup products (.noScript (setupFile products))), s)) ∨
    (∃ f, r.tree.isFile (setupFile products) = .ok true ∧
      r.answer products s.scripts.length 0 [] = .error f ∧
      (r.setUp products).run s = (.error (notStarted products f), s.ran (script products []))) ∨
    (∃ result, r.tree.isFile (setupFile products) = .ok true ∧
      r.answer products s.scripts.length 0 [] = .ok result ∧ result.status ≠ 0 ∧
      (r.setUp products).run s =
        (report (.environmentSetup products (.failed result.status (complaintOf result))),
          s.ran (script products []))) ∨
    (r.IsSetUp products s.scripts.length ∧
      (r.setUp products).run s = (.ok ⟨⟩, s.ran (script products []))) := by
  rw [setUp]
  cases hfile : r.tree.isFile (setupFile products) with
  | error f => exact .inl ⟨f, rfl, rfl⟩
  | ok isThere =>
    cases isThere with
    | false => exact .inr (.inl ⟨rfl, rfl⟩)
    | true =>
      cases hr : r.answer products s.scripts.length 0 [] with
      | error f =>
        refine .inr (.inr (.inl ⟨f, rfl, rfl, ?_⟩))
        simp [run_run, hr, Except.mapError]
      | ok result =>
        by_cases hs : result.status = 0
        · refine .inr (.inr (.inr (.inr ⟨⟨hfile, result, hr, hs⟩, ?_⟩)))
          simp [run_run, hr, Except.mapError, hs]
        · refine .inr (.inr (.inr (.inl ⟨result, rfl, rfl, hs, ?_⟩)))
          simp [run_run, hr, Except.mapError, hs]
          rfl

/-- What becomes of a listing: the shell does not start, or it lists versions. -/
theorem available_cases (r : Resolver) (products : Path) (s : Session) :
    (∃ f, r.answer products s.scripts.length 0 [listCommand r.product] = .error f ∧
      (r.available products).run s =
      (.error (notStarted products f), s.ran (script products [listCommand r.product]))) ∨
    ∃ result s', r.answer products s.scripts.length 0 [listCommand r.product] = .ok result ∧
      (r.available products).run s = (.ok result.listed, s') ∧
      s'.scripts = s.scripts ++ [script products [listCommand r.product]] ∧ s'.last = s.last := by
  rw [available]
  cases hr : r.answer products s.scripts.length 0 [listCommand r.product] with
  | error f =>
    refine .inl ⟨f, rfl, ?_⟩
    simp [run_run, hr, Except.mapError]
  | ok result =>
    refine .inr ⟨result, ?_⟩
    by_cases hs : result.status = 0
    · refine ⟨s.ran (script products [listCommand r.product]), rfl, ?_, rfl, rfl⟩
      simp [run_run, hr, Except.mapError, hs, ShellResult.listed]
    · set ran := s.ran (script products [listCommand r.product])
      refine ⟨{ ran with log := ran.log ++ [.listingFailed result.status result.errors] },
        rfl, ?_, rfl, rfl⟩
      simp only [Stateful.run_bind, run_run, hr, Except.mapError, ne_eq, hs, not_false_eq_true,
        if_true, run_note, Stateful.run_pure, ShellResult.listed, if_false]
      rfl

/-- What becomes of a choice: none is listed, the pinned one is not, none can be selected, or one
is. -/
theorem choose_cases (r : Resolver) (products : Path) (versions : List String) :
    (versions = [] ∧
      r.choose products versions = report (.missingToolchain (.noneListed r.product products))) ∨
    (versions ≠ [] ∧ ((∃ v, r.pinned = some v ∧ v ∉ versions ∧
        r.choose products versions =
          report (.missingToolchain (.notListed r.product v products versions))) ∨
      (∃ f, r.pinned = none ∧ Version.select versions = .error f ∧
        r.choose products versions = .error f) ∨
      ∃ version, r.Selects versions version ∧ r.choose products versions = .ok version)) := by
  rw [choose]
  by_cases hne : versions = []
  · exact .inl ⟨hne, by simp [hne]⟩
  · refine .inr ⟨hne, ?_⟩
    have hempty : versions.isEmpty = false := by simpa using hne
    simp only [hempty, Bool.false_eq_true, if_false, Selects]
    cases r.pinned with
    | some v =>
      by_cases hv : v ∈ versions
      · exact .inr (.inr ⟨v, ⟨hv, rfl⟩, by simp [hv]⟩)
      · exact .inl ⟨v, rfl, hv, by simp [hv]⟩
    | none =>
      cases hselect : Version.select versions with
      | error f => exact .inr (.inl ⟨f, rfl, rfl, rfl⟩)
      | ok version => exact .inr (.inr ⟨version, rfl, rfl⟩)

/-- The last step, after two scripts. -/
theorem activate_ends {version : String} (h : r.Chooses products s.scripts.length version)
    {s' : Session}
    (hs' : s'.scripts =
      s.scripts ++ [script products [], script products [listCommand r.product]]) :
    r.EndsWith products s ((r.activate products version).run s') := by
  have hanswer :
      r.answer products { s' with last := some (begun products version) }.scripts.length 0
          (setupCommands r.product version) =
        r.answer products s.scripts.length 2 (setupCommands r.product version) :=
    answer_eq hs' 0 _
  have hscripts :
      s'.scripts ++ [script products (setupCommands r.product version)] =
        s.scripts ++ [script products [], script products [listCommand r.product],
          script products (setupCommands r.product version)] := by
    rw [hs', List.append_assoc]
    rfl
  simp only [activate, Stateful.run_bind, run_remember, run_run]
  rw [show ({ productsDir := products, version := some version, status := .activating } :
      Toolchain) = begun products version from rfl, hanswer]
  cases hr : r.answer products s.scripts.length 2 (setupCommands r.product version) with
  | error f => exact ⟨_, _, .activationNotStarted h hr, hscripts, rfl⟩
  | ok result =>
    simp only [Except.mapError]
    by_cases hs : result.status = 0
    · rw [if_neg (not_not.2 hs)]
      exact ⟨_, _, .active h hr hs, hscripts, rfl⟩
    · rw [if_pos hs]
      exact ⟨_, _, .activationFailed h hr hs, hscripts, rfl⟩

/-- What is left to do once the products directory is set up. -/
theorem listing_ends (h : r.IsSetUp products s.scripts.length) {s' : Session}
    (hs' : s'.scripts = s.scripts ++ [script products []])
    (hlast : s'.last = some { productsDir := products }) :
    r.EndsWith products s (ExceptT.run (do
      let versions ← r.available products
      let version ← lift (r.choose products versions)
      note (.versionsListed r.product versions version)
      r.activate products version : Act Toolchain) s') := by
  have hanswer : r.answer products s'.scripts.length 0 [listCommand r.product] =
      r.answer products s.scripts.length 1 [listCommand r.product] :=
    answer_eq hs' 0 _
  simp only [Stateful.run_bind]
  obtain ⟨f, hf, e⟩ | ⟨result, s₂, hr, e, hs₂, hlast₂⟩ := available_cases r products s' <;>
    simp only [e]
  · refine ⟨_, _, .listingNotStarted h (hanswer.symm.trans hf), ?_, hlast⟩
    rw [Session.ran, hs', List.append_assoc]
    rfl
  have hs₂ : s₂.scripts =
      s.scripts ++ [script products [], script products [listCommand r.product]] := by
    rw [hs₂, hs', List.append_assoc]
    rfl
  have hlists : r.Lists products s.scripts.length result.listed :=
    ⟨h, result, hanswer.symm.trans hr, rfl⟩
  simp only [run_lift]
  obtain ⟨hnil, e⟩ | ⟨hne, ⟨v, hp, hv, e⟩ | ⟨f, hp, hf, e⟩ | ⟨version, hselect, e⟩⟩ :=
    choose_cases r products result.listed <;> rw [e]
  · rw [hnil] at hlists
    exact ⟨_, _, .noneListed hlists, hs₂, hlast₂.trans hlast⟩
  · exact ⟨_, _, .notListed hne hlists hp hv, hs₂, hlast₂.trans hlast⟩
  · exact ⟨_, _, .unordered hne hlists hp hf, hs₂, hlast₂.trans hlast⟩
  · exact activate_ends ⟨_, hne, hlists, hselect⟩ hs₂

/-- **Every resolution ends in one of the ways of `Ends`**, whatever the resolver has done
before. -/
theorem resolve_ends (r : Resolver) (products : Path) (s : Session) :
    r.EndsWith products s ((r.resolve products).run s) := by
  rw [resolve, Stateful.run_bind, run_remember]
  simp only
  set s₀ : Session := { s with last := some { productsDir := products } } with hs₀
  rw [Stateful.run_bind]
  obtain ⟨f, hf, e⟩ | ⟨hf, e⟩ | ⟨f, hfile, hf, e⟩ | ⟨result, hfile, hr, hs, e⟩ | ⟨hset, e⟩ :=
    setUp_cases r products s₀ <;> rw [e]
  · exact ⟨_, _, .untested hf, (List.append_nil _).symm, rfl⟩
  · exact ⟨_, _, .noScript hf, (List.append_nil _).symm, rfl⟩
  · exact ⟨_, _, .setupNotStarted hfile hf, rfl, rfl⟩
  · exact ⟨_, _, .setupFailed hfile hr hs, rfl, rfl⟩
  · exact listing_ends (s := s) hset rfl rfl

end Resolver
end LintRun
