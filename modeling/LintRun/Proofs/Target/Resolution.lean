import Mathlib
import LintRun.Target.Basic

/-!
# Proofs — Target — What a name stands for

How the resolution of a target ends, if all endings are texts.

* `Target.Tests`: the paths that a resolution looks up.
* `Target.Resolves`: the ways in which a resolution ends, each with its outcome.
* `Target.resolve_resolves`: every resolution ends in one of these ways, if no path that it looks up
  is a fault.
-/

namespace LintRun

/-- A path that can be looked up without a fault. -/
structure FileTree.IsTestable (t : FileTree) (p : Path) : Prop where
  file : ∀ f, t.isFile p ≠ .error f
  directory : ∀ f, t.isDirectory p ≠ .error f

namespace Ending

/-- Endings that are texts can be compared. -/
theorem asSet_texts (endings : List RawText) :
    asSet (endings.map .text) = .ok (endings.map .text) := by
  induction endings with
  | nil => rfl
  | cons ending rest ih =>
    rw [List.map_cons, asSet, ih]
    · rfl
    · simp

/-- Endings that are texts can be tried. -/
theorem exists_anyMatches (name : String) (endings : List RawText) :
    ∃ found, anyMatches name (endings.map .text) = .ok found := by
  induction endings with
  | nil => exact ⟨false, rfl⟩
  | cons ending rest ih =>
    rw [List.map_cons, anyMatches]
    by_cases h : isSuffix ending name = true
    · exact ⟨true, if_pos h⟩
    · rw [if_neg h]
      exact ih

end Ending

namespace Discovery

/-- What passes a test that may fail, or the fault of an item that makes it fail. -/
theorem keepWhere_cases {α ε : Type} (test : α → Except ε Bool) (xs : List α) :
    (∃ x ∈ xs, ∃ e, test x = .error e ∧ keepWhere test xs = .error e) ∨
      ∃ kept, keepWhere test xs = .ok kept ∧ ∀ x, x ∈ kept ↔ x ∈ xs ∧ test x = .ok true := by
  induction xs with
  | nil => exact .inr ⟨[], rfl, by simp⟩
  | cons x rest ih =>
    rw [keepWhere]
    cases hx : test x with
    | error e => exact .inl ⟨x, List.mem_cons_self, e, hx, rfl⟩
    | ok keep =>
      obtain ⟨y, hy, e, he, hrest⟩ | ⟨kept, hkept, hmem⟩ := ih
      · exact .inl ⟨y, List.mem_cons_of_mem _ hy, e, he, by rw [hrest]; rfl⟩
      · refine .inr ⟨if keep then x :: kept else kept, by rw [hkept]; rfl, fun y => ?_⟩
        rw [List.mem_cons, or_and_right, ← hmem]
        cases keep with
        | true =>
          have hself : y = x ∧ test y = .ok true ↔ y = x := and_iff_left_of_imp fun h => h ▸ hx
          rw [hself, if_pos rfl, List.mem_cons]
        | false =>
          have hself : ¬(y = x ∧ test y = .ok true) := by
            rintro ⟨rfl, hpasses⟩
            cases hx.symm.trans hpasses
          simp [hself]

/-- Nothing is lost to a test that does not fail. -/
theorem exists_keepWhere {α ε : Type} (test : α → Except ε Bool) (xs : List α)
    (h : ∀ x ∈ xs, ∀ e, test x ≠ .error e) : ∃ kept, keepWhere test xs = .ok kept := by
  obtain ⟨x, hx, e, he, -⟩ | ⟨kept, hkept, -⟩ := keepWhere_cases test xs
  · exact absurd he (h x hx e)
  · exact ⟨kept, hkept⟩

/-- The files below a directory are found, if no path below it is a fault. -/
theorem exists_collect {t : FileTree} {start : Path} (endings : List RawText)
    (hstart : ∀ f, t.isDirectory start ≠ .error f)
    (hbelow : ∀ paths, below t start = .ok paths → ∀ p ∈ paths, ∀ f, t.isFile p ≠ .error f) :
    ∃ found, collect t start (endings.map .text) = .ok found := by
  obtain ⟨paths, hpaths⟩ : ∃ paths, below t start = .ok paths := by
    rw [below]
    cases hdir : t.isDirectory start with
    | error f => exact absurd hdir (hstart f)
    | ok isThere =>
      cases isThere with
      | false => exact ⟨[], rfl⟩
      | true => cases hnode : t.node? start <;> exact ⟨_, rfl⟩
  obtain ⟨kept, hkept⟩ := exists_keepWhere t.isFile paths (hbelow paths hpaths)
  have hfiles : files t start = .ok kept := by
    rw [files, hpaths]
    exact hkept
  rw [collect, hfiles]
  by_cases hempty : (endings.map Ending.text).isEmpty = true
  · simp only [hempty, if_true]
    exact ⟨_, rfl⟩
  · obtain ⟨wanted, hwanted⟩ := exists_keepWhere
      (fun p : Path => Ending.anyMatches p.name (endings.map .text)) kept
      fun p _ e he => by
        obtain ⟨found, hfound⟩ := Ending.exists_anyMatches p.name endings
        cases hfound.symm.trans he
    simp only [hempty, hwanted]
    exact ⟨_, rfl⟩

end Discovery

namespace Target

variable {t : FileTree} {endings : FileEndings} {name : String}

/-- The paths that the resolution of a name looks up: the one that it names, and those below a
directory. -/
inductive Tests (t : FileTree) (name : String) : Path → Prop where
  | named : Tests t name (Path.ofString name)
  | below {paths : List Path} {p : Path}
      (h : Discovery.below t (Path.ofString name) = .ok paths) (hp : p ∈ paths) : Tests t name p

/-- **The ways in which the resolution of a target ends.** -/
inductive Resolves (t : FileTree) (endings : FileEndings)
    (name : String) : Outcome (List Path) → Prop where
  | directory {path : Path} {found : List Path} (h : classify t name = .ok ⟨path, .directory⟩)
      (hfound : Discovery.collect t path endings.sources = .ok found) :
      Resolves t endings name (.ok found)
  | source {path : Path} (h : classify t name = .ok ⟨path, .singleFile⟩)
      (hsource : Ending.anyMatches path.name endings.sources = .ok true) :
      Resolves t endings name (.ok [path])
  | header {path : Path} (h : classify t name = .ok ⟨path, .singleFile⟩)
      (hsource : Ending.anyMatches path.name endings.sources = .ok false)
      (hheader : Ending.anyMatches path.name endings.headers = .ok true) :
      Resolves t endings name (report (.headerFile path))
  | unknown {path : Path} (h : classify t name = .ok ⟨path, .singleFile⟩)
      (hsource : Ending.anyMatches path.name endings.sources = .ok false)
      (hheader : Ending.anyMatches path.name endings.headers = .ok false) :
      Resolves t endings name (report (.unknownEnding path))
  | missing {path : Path} (h : classify t name = .ok ⟨path, .invalid⟩) :
      Resolves t endings name (report (.missingTarget name))

/-- What a name turns out to be: one that is no target at all, or what is found under it as a
path. -/
theorem classify_cases (h : t.IsTestable (Path.ofString name)) :
    (∃ path, classify t name = .ok ⟨path, .invalid⟩) ∨ ∃ kind, classify t name =
      .ok ⟨Path.ofString name, kind⟩ := by
  rw [classify]
  by_cases hname : name = ""
  · rw [if_pos hname]
    exact .inl ⟨_, rfl⟩
  · rw [if_neg hname]
    cases hdir : t.isDirectory (Path.ofString name) with
    | error f => exact absurd hdir (h.directory f)
    | ok isDirectory =>
      cases isDirectory with
      | true => exact .inr ⟨.directory, by simp only [hdir]⟩
      | false =>
        cases hfile : t.isFile (Path.ofString name) with
        | error f => exact absurd hfile (h.file f)
        | ok isFile =>
          cases isFile with
          | true => exact .inr ⟨.singleFile, by simp only [hdir, hfile]⟩
          | false => exact .inr ⟨.invalid, by simp only [hdir, hfile]⟩

/-- **Every resolution ends in one of the ways of `Resolves`**, if no path that it looks up is a
fault. -/
theorem resolve_resolves (sources headers : List RawText)
    (h : ∀ p, Tests t name p → t.IsTestable p) :
    Resolves t ⟨sources.map .text, headers.map .text⟩ name
      (resolve t ⟨sources.map .text, headers.map .text⟩ name) := by
  rw [resolve]
  obtain ⟨path, hclass⟩ | ⟨kind, hclass⟩ := classify_cases (h _ .named) <;> rw [hclass]
  · exact .missing hclass
  cases kind with
  | invalid => exact .missing hclass
  | directory =>
    obtain ⟨found, hfound⟩ := Discovery.exists_collect sources (h _ .named).directory
      fun paths hpaths p hp => (h p (.below hpaths hp)).file
    simp only [bind, Except.bind, Ending.asSet_texts, hfound]
    exact .directory hclass hfound
  | singleFile =>
    simp only [bind, Except.bind, single]
    obtain ⟨isSource, hsource⟩ := Ending.exists_anyMatches (Path.ofString name).name sources
    obtain ⟨isHeader, hheader⟩ := Ending.exists_anyMatches (Path.ofString name).name headers
    rw [hsource]
    cases isSource with
    | true => exact .source hclass hsource
    | false =>
      simp only [hheader]
      cases isHeader with
      | true => exact .header hclass hsource hheader
      | false => exact .unknown hclass hsource hheader

end Target
end LintRun
