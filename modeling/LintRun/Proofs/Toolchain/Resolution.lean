import Mathlib
import LintRun.Proofs.Files.Tree
import LintRun.Proofs.Toolchain.Resolver

/-!
# Proofs — Toolchain — What a resolution gives

A resolution gives a toolchain exactly if every step of it succeeds, and else the failure of the
first step that does not.

* `Resolver.Succeeds`: every step of a resolution succeeds, said of the answers of the shell.
* `Resolver.Succeeds.exists_eq_ok`, `Resolver.Ends.succeeds`: exactly then a toolchain is given.
* `Resolver.resolve_gives_toolchain_or_first_failure`: what a resolution gives and leaves behind.
-/

namespace LintRun

theorem ShellResult.listed_of_ne_nil {result : ShellResult} (h : result.listed ≠ []) :
    result.status = 0 ∧ result.listed = Listing.versions result.output := by
  unfold listed at h ⊢
  by_cases hs : result.status = 0
  · exact ⟨hs, if_pos hs⟩
  · exact absurd (if_neg hs) h

namespace Resolver

variable {r : Resolver} {products : Path} {before : Nat}

/-- Only one version is set up. -/
theorem Selects.unique {versions : List String} {v w : String} (hv : r.Selects versions v)
    (hw : r.Selects versions w) :
    v = w := by
  unfold Selects at hv hw
  cases hp : r.pinned with
  | some u =>
    simp only [hp] at hv hw
    exact hv.2.trans hw.2.symm
  | none =>
    simp only [hp] at hv hw
    exact Except.ok.inj (hv.symm.trans hw)

theorem Lists.unique {versions others : List String} (hv : r.Lists products before versions)
    (hw : r.Lists products before others) : versions = others := by
  obtain ⟨-, result, hr, rfl⟩ := hv
  obtain ⟨-, result', hr', rfl⟩ := hw
  obtain rfl : result = result' := Except.ok.inj (hr.symm.trans hr')
  rfl

theorem Chooses.unique {v w : String} (hv : r.Chooses products before v)
    (hw : r.Chooses products before w) : v = w := by
  obtain ⟨versions, -, hlists, hselects⟩ := hv
  obtain ⟨others, -, hlists', hselects'⟩ := hw
  obtain rfl := hlists.unique hlists'
  exact hselects.unique hselects'

/-- Of readable versions one is set up, if the pinned one is among them. -/
theorem exists_selects {versions : List String} (hne : versions ≠ [])
    (hread : ∀ v ∈ versions, Version.IsReadable v)
    (hpinned : ∀ v, r.pinned = some v → v ∈ versions) :
    ∃ version, r.Selects versions version := by
  cases hp : r.pinned with
  | some v => exact ⟨v, by simp [Selects, hp, hpinned v hp]⟩
  | none =>
    obtain ⟨v, -, hv⟩ := Version.exists_select hne hread
    exact ⟨v, by simp [Selects, hp, hv]⟩

/-- Every step of a resolution succeeds: the setup script is there and succeeds, versions are
listed, with the pinned one among them, and the one that is set up is set up successfully. -/
structure Succeeds (r : Resolver) (products : Path) (before : Nat)
    (listing : ShellResult) : Prop where
  setup : r.IsSetUp products before
  listed : r.answer products before 1 [listCommand r.product] = .ok listing
  status_eq : listing.status = 0
  nonempty : Listing.versions listing.output ≠ []
  pinned : ∀ v, r.pinned = some v → v ∈ Listing.versions listing.output
  activated : ∀ version, r.Selects (Listing.versions listing.output) version →
    ∃ result, r.answer products before 2 (setupCommands r.product version) = .ok result ∧
      result.status = 0

/-- The scripts that a resolution runs: how many of them before, and with which commands. -/
inductive Asks (r : Resolver) (products : Path) (before : Nat) : Nat → List String → Prop where
  | setup (h : r.tree.isFile (setupFile products) = .ok true) : Asks r products before 0 []
  | listing (h : r.IsSetUp products before) : Asks r products before 1 [listCommand r.product]
  | activation {version : String} (h : r.Chooses products before version) :
      Asks r products before 2 (setupCommands r.product version)

/-- Whether the versions that are listed can be ordered. -/
def ListsReadable (r : Resolver) (products : Path) (before : Nat) : Prop :=
  ∀ listing, r.answer products before 1 [listCommand r.product] = .ok listing →
    ∀ v ∈ Listing.versions listing.output, Version.IsReadable v

namespace Succeeds

variable {listing : ShellResult} {outcome : Outcome Toolchain}
  {scripts : List String} {last : Toolchain}

theorem lists (h : r.Succeeds products before listing) :
    r.Lists products before (Listing.versions listing.output) :=
  ⟨h.setup, listing, h.listed, if_pos h.status_eq⟩

theorem chooses (h : r.Succeeds products before listing) (hread : r.ListsReadable products before) :
    ∃ version, r.Chooses products before version ∧
      r.Selects (Listing.versions listing.output) version := by
  obtain ⟨version, hselects⟩ := exists_selects h.nonempty (hread listing h.listed) h.pinned
  exact ⟨version, ⟨_, h.nonempty, h.lists, hselects⟩, hselects⟩

/-- A resolution whose steps all succeed ends in a toolchain. -/
theorem exists_eq_ok (h : r.Succeeds products before listing)
    (hread : r.ListsReadable products before)
    (hends : r.Ends products before outcome scripts last) :
    ∃ t, outcome = .ok t := by
  obtain ⟨version, hchooses, hselects⟩ := h.chooses hread
  obtain ⟨result, hr, hstatus⟩ := h.activated version hselects
  obtain ⟨hfile, first, hfirst, hzero⟩ := h.setup
  -- every other way contradicts the step that it fails in
  cases hends with
  | untested hf | noScript hf => cases hfile.symm.trans hf
  | setupNotStarted hf ha => cases hfirst.symm.trans ha
  | setupFailed hf ha hs =>
    cases hfirst.symm.trans ha
    exact absurd hzero hs
  | listingNotStarted hset ha => cases h.listed.symm.trans ha
  | noneListed hl => exact absurd (h.lists.unique hl) h.nonempty
  | notListed hne hl hp hv =>
    rw [← h.lists.unique hl] at hv
    exact absurd (h.pinned _ hp) hv
  | unordered hne hl hp hf =>
    rw [← h.lists.unique hl] at hf
    simp only [Selects, hp] at hselects
    cases hselects.symm.trans hf
  | activationNotStarted hc ha =>
    obtain rfl := hchooses.unique hc
    cases hr.symm.trans ha
  | activationFailed hc ha hs =>
    obtain rfl := hchooses.unique hc
    cases hr.symm.trans ha
    exact absurd hstatus hs
  | active hc ha hs => exact ⟨_, rfl⟩

end Succeeds

namespace Ends

variable {outcome : Outcome Toolchain} {scripts : List String} {last : Toolchain}

/-- A resolution that ends in a toolchain has succeeded in every step, and remembers the
toolchain. -/
theorem succeeds (h : r.Ends products before outcome scripts last) {t : Toolchain}
    (ht : outcome = .ok t) :
    last = t ∧ ∃ listing, r.Succeeds products before listing ∧
      ∃ version result, r.Selects (Listing.versions listing.output) version ∧
        r.answer products before 2 (setupCommands r.product version) = .ok result ∧
        t = r.activated products version result := by
  cases h with
  | active hc hr hs =>
    obtain rfl := Except.ok.inj ht
    obtain ⟨versions, hne, ⟨hset, listing, hlist, rfl⟩, hselects⟩ := hc
    obtain ⟨hstatus, hlisted⟩ := ShellResult.listed_of_ne_nil hne
    rw [hlisted] at hne hselects
    refine ⟨rfl, listing, ⟨hset, hlist, hstatus, hne, fun v hv => ?_, fun version' hversion' => ?_⟩,
      _, _, hselects, hr, rfl⟩
    · simp only [Selects, hv] at hselects
      exact hselects.1
    · obtain rfl := hselects.unique hversion'
      exact ⟨_, hr, hs⟩
  | _ => cases ht

/-- A fault is that of a shell that cannot be started at all, if the setup script can be looked for
and the versions can be ordered. -/
theorem impossible_of_fault (h : r.Ends products before outcome scripts last) {f : Fault}
    (hf : outcome = stop f) (htested : ∀ f, r.tree.isFile (setupFile products) ≠ .error f)
    (hread : r.pinned = none → r.ListsReadable products before) :
    ∃ ran commands, r.Asks products before ran commands ∧
      r.answer products before ran commands = .error (.impossible f) := by
  have eq_impossible {g : ShellFault}
    (hg : (.error (notStarted products g) : Outcome Toolchain) = stop f) :
      g = .impossible f := by
    cases g <;> cases hg
    rfl
  cases h with
  | untested h => exact absurd h (htested _)
  | setupNotStarted h ha => exact ⟨0, _, .setup h, eq_impossible hf ▸ ha⟩
  | listingNotStarted h ha => exact ⟨1, _, .listing h, eq_impossible hf ▸ ha⟩
  | activationNotStarted h ha => exact ⟨2, _, .activation h, eq_impossible hf ▸ ha⟩
  | unordered hne h hp hs =>
    obtain ⟨-, listing, hlist, rfl⟩ := h
    obtain ⟨-, hlisted⟩ := ShellResult.listed_of_ne_nil hne
    rw [hlisted] at hne hs
    -- readable versions can be ordered
    obtain ⟨v, -, hv⟩ := Version.exists_select hne (hread hp listing hlist)
    cases hv.symm.trans hs
  | _ => cases hf

/-- The exit code of a resolution that ends with a problem. -/
theorem exitCode (h : r.Ends products before outcome scripts last) {e : Problem}
    (he : outcome = report e) :
    e.exitCode = 1 ∨ e.exitCode = 2 := by
  have of_notStarted {g : ShellFault}
    (hg : (.error (notStarted products g) : Outcome Toolchain) = report e) :
      e.exitCode = 1 := by
    cases g <;> cases hg
    rfl
  cases h with
  | setupNotStarted h ha => exact .inl (of_notStarted he)
  | listingNotStarted h ha => exact .inl (of_notStarted he)
  | activationNotStarted h ha => exact .inl (of_notStarted he)
  | unordered hne h hp hf =>
    obtain rfl := Except.error.inj he
    rw [Version.select] at hf
    split at hf <;> cases hf
    exact .inr rfl
  | noScript | setupFailed | activationFailed =>
    cases he
    exact .inl rfl
  | noneListed | notListed =>
    cases he
    exact .inr rfl
  | untested | active => cases he

end Ends

/-- Nothing that a resolution does is a fault: the setup script can be looked for, the versions can
be ordered unless one is pinned, and no shell that it runs is impossible to start. -/
structure IsOrdinary (r : Resolver) (products : Path) (before : Nat) : Prop where
  setup : ∀ f, r.tree.isFile (setupFile products) ≠ .error f
  versions : r.pinned = none → r.ListsReadable products before
  shells : ∀ ran commands, r.Asks products before ran commands →
    ∀ f, r.answer products before ran commands ≠ .error (.impossible f)

/-- **A resolution gives a toolchain exactly if every step of it succeeds, and else the failure of
the first step that does not.** Let the setup script be looked for without a fault, and the versions
be readable. Whatever the resolver has done before, the toolchain that it gives is that of the
selected version, with what the last script changed of the environment that all scripts start from,
and the resolver remembers it. In any case a resolution ends in one of the ways of `Ends`, which say
which scripts it ran. It ends with no fault but that of a shell which cannot be started at all. -/
theorem resolve_gives_toolchain_or_first_failure (r : Resolver) (products : Path) (s : Session)
    (htested : ∀ f, r.tree.isFile (setupFile products) ≠ .error f)
    (hread : r.ListsReadable products s.scripts.length) :
    let found := (r.resolve products).run s
    ((∃ t, found.1 = .ok t) ↔ ∃ listing, r.Succeeds products s.scripts.length listing) ∧
    (∀ t, found.1 = .ok t → found.2.last = some t ∧ ∃ listing version result,
      r.answer products s.scripts.length 1 [listCommand r.product] = .ok listing ∧
      r.Selects (Listing.versions listing.output) version ∧
      r.answer products s.scripts.length 2 (setupCommands r.product version) = .ok result ∧
      t = { productsDir := products, version := some version, status := .active
            environment := Environment.changes r.environment (Environment.ofDump result.output) }) ∧
    r.EndsWith products s found ∧
    ∀ f, found.1 = stop f → ∃ ran commands, r.Asks products s.scripts.length ran commands ∧
      r.answer products s.scripts.length ran commands = .error (.impossible f) := by
  intro found
  obtain ⟨scripts, last, hends, hscripts, hlast⟩ := r.resolve_ends products s
  refine ⟨⟨fun ⟨t, ht⟩ => ?_, fun ⟨listing, h⟩ => h.exists_eq_ok hread hends⟩, fun t ht => ?_,
    ⟨scripts, last, hends, hscripts, hlast⟩, fun f hf => ?_⟩
  · obtain ⟨-, listing, h, -⟩ := hends.succeeds ht
    exact ⟨listing, h⟩
  · obtain ⟨rfl, listing, h, version, result, hselects, hr, rfl⟩ := hends.succeeds ht
    exact ⟨hlast, listing, version, result, h.listed, hselects, hr, rfl⟩
  · exact hends.impossible_of_fault hf htested fun _ => hread

/-- The first call is refused by the shell. The second one finds two versions, of which the greater
one is not the last one listed. -/
theorem resolve_gives_greatest_after_refusal :
    let products : Path := ⟨.absolute, ["p"]⟩
    let r : Resolver :=
      { environment := [("HOME", "/h")]
        shell := fun ran _ _ => match ran with
          | 0 => .error (.refused (Refusal.noEntry.on "bash"))
          | 2 => .ok { output := "\"clang\" \"v10_0\" \"Linux\"\n\"clang\" \"v9_0\" \"Linux\"\n" }
          | _ => .ok { output := "HOME=/h\x00CLANG_DIR=/c\x00" }
        tree := ⟨.directory [("p", .directory [("setup", .file [] false)])], []⟩ }
    let first := (r.resolve products).run {}
    let second := (r.resolve products).run first.2
    first.1 = report (.environmentSetup products (.notStarted (Refusal.noEntry.on "bash"))) ∧
    ∃ t, second.1 = .ok t ∧ second.2.last = some t ∧
      t = { productsDir := products, version := some "v10_0", status := .active
            environment := [("CLANG_DIR", "/c")] } := by
  intro products r first second
  have hfile : r.tree.isFile (setupFile products) = .ok true :=
    FileTree.leadsTo_of_find? Node.isFile (.file [] false) (.inl rfl) (by decide) (by decide)
      (by decide) rfl
  have hfirst : first =
    (report (.environmentSetup products (.notStarted (Refusal.noEntry.on "bash"))),
      ({ last := some { productsDir := products } } : Session).ran (script products [])) := by
    simp only [first, resolve, Stateful.run_bind, run_remember, setUp, hfile, run_run]
    rfl
  have hscripts : first.2.scripts.length = 1 := by rw [hfirst]; rfl
  have hanswer (ran : Nat) (commands : List String) :
    r.answer products first.2.scripts.length ran commands =
      r.shell (1 + ran) (script products commands) r.environment := by rw [answer, hscripts]
  have hversions : Listing.versions
    "\"clang\" \"v10_0\" \"Linux\"\n\"clang\" \"v9_0\" \"Linux\"\n" =
      ["v10_0", "v9_0"] := by decide
  have hselects (version : String) : r.Selects ["v10_0", "v9_0"] version ↔ version = "v10_0" := by
    have hselect : Version.select ["v10_0", "v9_0"] = .ok "v10_0" := by cbv
    simp only [Selects, r, hselect, Except.ok.injEq, eq_comm]
  have hread : r.ListsReadable products first.2.scripts.length := by
    intro listing hlisting v hv
    rw [hanswer] at hlisting
    cases hlisting
    rw [hversions] at hv
    rw [← Version.exists_key_iff]
    fin_cases hv
    · exact ⟨⟨[.letters ['v'], .number 10, .number 0], "v10_0"⟩, by cbv⟩
    · exact ⟨⟨[.letters ['v'], .number 9, .number 0], "v9_0"⟩, by cbv⟩
  obtain ⟨hiff, hgives, -, -⟩ := resolve_gives_toolchain_or_first_failure r products first.2
    (by simp [hfile]) hread
  obtain ⟨t, ht⟩ := hiff.2 ⟨_, ⟨hfile, _, hanswer 0 _, rfl⟩, hanswer 1 _,
    rfl, by simp [hversions], by simp [r], fun version _ => ⟨_, hanswer 2 _, rfl⟩⟩
  obtain ⟨hlast, listing, version, result, hlisting, hselected, hresult, rfl⟩ := hgives t ht
  rw [hanswer] at hlisting hresult
  cases hlisting
  cases hresult
  rw [hversions, hselects] at hselected
  subst hselected
  exact ⟨by rw [hfirst], _, ht, hlast, by cbv⟩

end Resolver
end LintRun
