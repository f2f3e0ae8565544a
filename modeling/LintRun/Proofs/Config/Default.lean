import Mathlib
import LintRun.Proofs.Config.Source

/-!
# Proofs — Config — The default file

Without a name, a configuration is loaded if the configuration directory has a file of the default
name. The file that is read then is the one of that name in the working directory, if there is one.

* `Source.find_of_not_exists`, `Source.find_of_fault`: where a name leads that the working directory
  does not have.
* `Source.read_congr`: what is read depends on the file that a name leads to.
* `Config.load_default_agrees`: when two places give the same settings without a name.
* `Config.load_default_differs`: two places with the same configuration directory that do not.
-/

namespace LintRun

variable {s s' : Source} {near file : Path} {name tag : String} {f : SystemFault}

namespace Source

/-! ### Where a name leads -/

/-- A file that the working directory does not have is looked for in the configuration directory. -/
theorem find_of_not_exists (hname : Path.ofString name = near) (hrelative : near.isAbsolute = false)
    (hnear : s.tree.isThere near = .ok false)
    (hfar : s.tree.isThere (s.directory.join near) = .ok true) :
    s.find name = .ok (s.directory.join near) := by
  unfold find
  simp only [hname, hrelative, hnear, onTree, bind, Except.bind, hfar, Bool.false_eq_true, if_false,
    if_true]

/-- A fault of the look-up beside the working directory ends the search. -/
theorem find_of_fault (hname : Path.ofString name = near) (hrelative : near.isAbsolute = false)
    (hnear : s.tree.isThere near = .error f) : s.find name = stop (.system f) := by
  unfold find
  simp only [hname, hrelative, hnear, onTree, bind, Except.bind, Bool.false_eq_true, if_false]
  rfl

/-! ### What is read -/

/-- What a file holds depends on what its path leads to. -/
theorem textOf_congr (h : s'.tree.node? file = s.tree.node? file) :
    s'.textOf file = s.textOf file := by
  rw [textOf, textOf, FileTree.read_congr h]

/-- What is read under a name depends on the file that the name leads to. -/
theorem read_congr (hfind : s.find name = .ok file) (hfind' : s'.find name = .ok file)
    (h : s'.tree.node? file = s.tree.node? file) : s'.read name = s.read name := by
  rw [read_eq hfind, read_eq hfind', textOf_congr h]

/-! ### The default file -/

/-- The file of the default name in the working directory. -/
def nearDefault : Path := .ofString Config.defaultName

/-- The file of the default name in the configuration directory. -/
def farDefault (s : Source) : Path := s.directory.child Config.defaultName

theorem nearDefault_relative : nearDefault.isAbsolute = false := by decide

theorem farDefault_eq (s : Source) : s.farDefault = s.directory.join nearDefault := by
  have hparts : nearDefault.parts = [Config.defaultName] := by decide
  rw [Path.join, if_neg (by simp [nearDefault_relative]), hparts]
  rfl

/-- Without one in the working directory, the default name leads to the file of the configuration
directory. -/
theorem find_default (hfar : s.tree.isThere s.farDefault = .ok true)
    (hnear : s.tree.isThere nearDefault = .ok false) :
    s.find Config.defaultName = .ok s.farDefault := by
  rw [farDefault_eq] at hfar ⊢
  exact find_of_not_exists rfl nearDefault_relative hnear hfar

end Source

open Source

namespace Config

/-- What is loaded depends on what is read. -/
theorem load_congr (h : s'.read name = s.read name) (tag : String) :
    Config.load s' (some name) tag = Config.load s (some name) tag := by
  rw [load_eq, load_eq, entry_eq, entry_eq, h]

theorem nameToLoad_none {isThere : Bool} (h : s.tree.isThere s.farDefault = .ok isThere) :
    s.nameToLoad none = .ok (if isThere then some defaultName else none) := by
  rw [farDefault] at h
  rw [nameToLoad, h]
  cases isThere <;> rfl

/-- Without a name the default file is taken if the configuration directory has it. -/
theorem load_none_of_exists (h : s.tree.isThere s.farDefault = .ok true) (tag : String) :
    Config.load s none tag = Config.load s (some defaultName) tag := by
  rw [Config.load, nameToLoad_none h]
  rfl

/-- Without a name and without a file to default to, the defaults are loaded. -/
theorem load_none_of_missing (h : s.tree.isThere s.farDefault = .ok false) (tag : String) :
    Config.load s none tag = .ok {} := by
  rw [Config.load, nameToLoad_none h]
  rfl

/-- A fault of the look-up for the file to default to ends the loading. -/
theorem load_none_of_fault (h : s.tree.isThere s.farDefault = .error f) (tag : String) :
    Config.load s none tag = stop (.system f) := by
  rw [farDefault] at h
  rw [Config.load, nameToLoad, h]
  rfl

/-- Two places that both have the default file in the configuration directory, and agree on that of
the working directory, agree unless there is none. -/
theorem load_none_congr (hfar : s.tree.isThere s.farDefault = .ok true)
    (hfar' : s'.tree.isThere s'.farDefault = .ok true)
    (hnear : s'.tree.node? nearDefault = s.tree.node? nearDefault)
    (hthere : s.tree.isThere nearDefault ≠ .ok false) (tag : String) :
    Config.load s' none tag = Config.load s none tag := by
  have hnear' : s'.tree.isThere nearDefault = s.tree.isThere nearDefault :=
    FileTree.leadsTo_congr hnear _
  rw [load_none_of_exists hfar, load_none_of_exists hfar']
  refine load_congr ?_ tag
  cases h : s.tree.isThere nearDefault with
  | error f =>
    have hfind : s.find defaultName = stop (.system f) := find_of_fault rfl nearDefault_relative h
    have hfind' : s'.find defaultName = stop (.system f) :=
      find_of_fault rfl nearDefault_relative (hnear'.trans h)
    rw [Source.read, Source.read, hfind, hfind']
    rfl
  | ok isThere =>
    cases isThere with
    | true =>
      have hfind : s.find defaultName = .ok nearDefault := find_of_exists rfl nearDefault_relative h
      have hfind' : s'.find defaultName = .ok nearDefault :=
        find_of_exists rfl nearDefault_relative (hnear'.trans h)
      exact read_congr hfind hfind' hnear
    | false => exact absurd h hthere

/-- Two places that agree on the default file of the configuration directory agree if their working
directories have none. -/
theorem load_none_congr_of_not_exists (hdirectory : s'.directory = s.directory)
    (hfar : s'.tree.node? s'.farDefault = s.tree.node? s.farDefault)
    (hthere : s.tree.isThere s.farDefault = .ok true)
    (hnear : s.tree.isThere nearDefault = .ok false)
    (hnear' : s'.tree.isThere nearDefault = .ok false) (tag : String) :
    Config.load s' none tag = Config.load s none tag := by
  have hsame : s'.farDefault = s.farDefault := by
    rw [Source.farDefault, Source.farDefault, hdirectory]
  rw [hsame] at hfar
  have hthere' : s'.tree.isThere s'.farDefault = .ok true := by
    rw [hsame, ← hthere]
    exact FileTree.leadsTo_congr hfar _
  have hfind' : s'.find defaultName = .ok s.farDefault := hsame ▸ find_default hthere' hnear'
  rw [load_none_of_exists hthere, load_none_of_exists hthere']
  exact load_congr (read_congr (find_default hthere hnear) hfind' hfar) tag

/-- What is loaded from a file that a mapping is printed to. -/
theorem load_of_map {fields : List (String × Value)} {text : String}
    (h : Json.IsData (.map (Value.entriesWith fields)))
    (htext : Json.print .oneLine (.map (Value.entriesWith fields)) = text)
    (hfind : s.find name = .ok file) (hformat : Document.formatOf file = .json)
    (hread : s.tree.read file = .ok text.toUTF8.toList) :
    Config.load s (some name) tag = assignAll {} (Value.entriesWith fields) := by
  rw [load_eq, entry_eq, (holds_of_read h htext hformat hread).read_eq hfind]
  rfl

/-! ### Two places -/

/-- **What is loaded without a name depends on two files of the default name**, that of the
configuration directory and that of the working directory. Let two places agree on the first of
them. They give the same settings, or the same failure, if it is missing, if the working directories
agree on the second one, or if neither of them has one. Where both files are there, that of the
working directory decides alone, whatever else is there. -/
theorem load_default_agrees (s s' : Source) (hdirectory : s'.directory = s.directory)
    (hfar : s'.tree.node? s'.farDefault = s.tree.node? s.farDefault) (tag : String) :
    (s.tree.isThere s.farDefault ≠ .ok true ∨ s'.tree.node? nearDefault = s.tree.node? nearDefault ∨
        (s.tree.isThere nearDefault = .ok false ∧ s'.tree.isThere nearDefault = .ok false) →
      Config.load s' none tag = Config.load s none tag) ∧
    (s.tree.isThere s.farDefault = .ok true → s.tree.isThere nearDefault = .ok true →
      ∀ other : Source, other.tree.isThere other.farDefault = .ok true →
        other.tree.node? nearDefault = s.tree.node? nearDefault →
        Config.load other none tag = Config.load s none tag) := by
  have hexists : s'.tree.isThere s'.farDefault = s.tree.isThere s.farDefault := by
    have hsame : s'.farDefault = s.farDefault := by rw [farDefault, farDefault, hdirectory]
    rw [hsame] at hfar ⊢
    exact FileTree.leadsTo_congr hfar _
  refine ⟨fun h => ?_, fun hthere hnear other hother hnear' =>
    load_none_congr hthere hother hnear' (by simp [hnear]) tag⟩
  cases hthere : s.tree.isThere s.farDefault with
  | error f => rw [load_none_of_fault hthere, load_none_of_fault (hexists.trans hthere)]
  | ok isThere =>
    cases isThere with
    | false => rw [load_none_of_missing hthere, load_none_of_missing (hexists.trans hthere)]
    | true =>
      rcases h with hnot | hnear | ⟨hnear, hnear'⟩
      · exact absurd hthere hnot
      · by_cases hnone : s.tree.isThere nearDefault = .ok false
        · have hnone' : s'.tree.isThere nearDefault = .ok false :=
            (FileTree.leadsTo_congr hnear _).trans hnone
          exact load_none_congr_of_not_exists hdirectory hfar hthere hnone hnone' tag
        · exact load_none_congr hthere (hexists.trans hthere) hnear hnone tag
      · exact load_none_congr_of_not_exists hdirectory hfar hthere hnear hnear' tag

/-- A file with a text in it. -/
def textFile (text : String) : Node := .file text.toUTF8.toList false

/-- A configuration directory with a default file. -/
def directoryWith (text : String) : Node := .directory [("tidy_config.json", textFile text)]

/-- A place with such a configuration directory, and with more entries in the working directory. -/
def placeWith (text : String) (more : List (String × Node)) : Source :=
  { tree := ⟨.directory (("config", directoryWith text) :: more), []⟩,
    directory := ⟨.relative, ["config"]⟩ }

variable {text : String} {more : List (String × Node)}

theorem farDefault_placeWith :
    (placeWith text more).farDefault = ⟨.relative, ["config", "tidy_config.json"]⟩ := rfl

theorem node?_farDefault_placeWith :
    (placeWith text more).tree.node? (placeWith text more).farDefault = .ok (textFile text) := by
  rw [farDefault_placeWith]
  exact FileTree.node?_of_find? (textFile text) (.inr rfl) (by decide) (by decide) rfl

theorem exists_farDefault_placeWith :
    (placeWith text more).tree.isThere (placeWith text more).farDefault = .ok true := by
  rw [farDefault_placeWith]
  exact FileTree.leadsTo_of_find? (fun _ => true) (textFile text) (.inr rfl) (by decide)
    (by decide) (by decide) rfl

theorem nearDefault_eq : nearDefault = ⟨.relative, ["tidy_config.json"]⟩ := by decide

theorem exists_nearDefault_placeWith (h : more.lookup "tidy_config.json" = none) :
    (placeWith text more).tree.isThere nearDefault = .ok false := by
  rw [nearDefault_eq]
  exact FileTree.leadsTo_of_absent _ (.inr rfl) (by decide) rfl rfl (by decide)
    (by simpa [List.lookup] using h)

/-- Another file in the working directory does not matter. -/
theorem load_default_agrees_beside_other_file :
    let s := placeWith "\x7b\"jobs\": 2\x7d" []
    let s' := placeWith "\x7b\"jobs\": 2\x7d" [("other.json", textFile "\x7b\"jobs\": 3\x7d")]
    s'.directory = s.directory ∧ s'.tree.node? s'.farDefault = s.tree.node? s.farDefault ∧
      s.tree.isThere nearDefault = .ok false ∧ s'.tree.isThere nearDefault = .ok false ∧
      Config.load s' none "ci" = Config.load s none "ci" := by
  intro s s'
  have hfar : s'.tree.node? s'.farDefault = s.tree.node? s.farDefault :=
    node?_farDefault_placeWith.trans node?_farDefault_placeWith.symm
  have hnear : s.tree.isThere nearDefault = .ok false := exists_nearDefault_placeWith rfl
  have hnear' : s'.tree.isThere nearDefault = .ok false := exists_nearDefault_placeWith (by decide)
  exact ⟨rfl, hfar, hnear, hnear',
    (load_default_agrees s s' rfl hfar "ci").1 (.inr (.inr ⟨hnear, hnear'⟩))⟩

/-- **The working directory decides what is loaded without a name**: the configuration directories
are the same, with all that is in them. -/
theorem load_default_differs :
    let s := placeWith "\x7b\"jobs\": 2\x7d" []
    let s' := placeWith "\x7b\"jobs\": 2\x7d" [("tidy_config.json", textFile "\x7b\"jobs\": 3\x7d")]
    s'.directory = s.directory ∧
      s.tree.node? s.directory = .ok (directoryWith "\x7b\"jobs\": 2\x7d") ∧
      s'.tree.node? s'.directory = .ok (directoryWith "\x7b\"jobs\": 2\x7d") ∧
      Config.load s none "default" = .ok { jobs := 2 } ∧ Config.load s' none "default" =
        .ok { jobs := 3 } := by
  intro s s'
  have hdata (jobs : Nat) (h : jobs < 10) :
      Json.IsData (.map (Value.entriesWith [("jobs", .int jobs)])) :=
    .map (by simp) (List.forall_mem_singleton.2 (.of_lt_ten h))
  have hfind : s.find defaultName = .ok s.farDefault :=
    find_default exists_farDefault_placeWith (exists_nearDefault_placeWith rfl)
  have hfind' : s'.find defaultName = .ok ⟨.relative, ["tidy_config.json"]⟩ :=
    find_of_exists (by decide) rfl
      (FileTree.leadsTo_of_find? (fun _ => true) (textFile "\x7b\"jobs\": 3\x7d") (.inr rfl)
        (by decide) (by decide)
        (by decide) rfl)
  refine ⟨rfl, FileTree.node?_of_find? _ (.inr rfl) (by decide) (by decide) rfl,
    FileTree.node?_of_find? _ (.inr rfl) (by decide) (by decide) rfl, ?_, ?_⟩
  · rw [load_none_of_exists exists_farDefault_placeWith,
      load_of_map (hdata 2 (by decide)) (by decide) hfind (by decide)
        (FileTree.read_of_find? (.inr rfl) (by decide) (by decide) rfl)]
    cbv
  · rw [load_none_of_exists exists_farDefault_placeWith,
      load_of_map (hdata 3 (by decide)) (by decide) hfind' (by decide)
        (FileTree.read_of_find? (.inr rfl) (by decide) (by decide) rfl)]
    cbv

end Config
end LintRun
