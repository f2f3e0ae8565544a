import Mathlib
import LintRun.Proofs.Files.Path
import LintRun.Proofs.Target.Resolution

/-!
# Proofs — Target — Files of a directory and single files

A file below a directory can be named in two ways: by the directory, and by itself.

* `Node.Below`: the names that lead below a directory, without passing through links.
* `Discovery.collect_cases`: which files a directory stands for.
* `Target.resolve_single_iff`: when a file stands for itself.
* `Target.resolve_agrees_iff`: the two agree on every file if an ending is given, and on none if
  not.
-/

namespace LintRun

/-- Names that lead below a directory, through directories and no links. What they lead to may be a
link itself. -/
inductive Node.Below : Node → List String → Prop where
  | entry {es : List (String × Node)} {name : String} {node : Node} (hentry : (name, node) ∈ es)
      (hname : Path.IsName name) : Below (.directory es) [name]
  | deeper {es : List (String × Node)} {name : String} {node : Node} {names : List String}
      (hentry : (name, node) ∈ es) (hname : Path.IsName name) (hbelow : Below node names) :
      Below (.directory es) (name :: names)

namespace Node.Below

variable {node : Node} {names : List String}

theorem ne_nil (h : node.Below names) : names ≠ [] := by
  cases h <;> simp

theorem isName (h : node.Below names) : ∀ name ∈ names, Path.IsName name := by
  induction h with
  | entry _ hname => simpa using hname
  | deeper _ hname _ ih => exact List.forall_mem_cons.2 ⟨hname, ih⟩

end Node.Below

namespace Discovery

variable {t : FileTree} {d p : Path} {node : Node} {es : List (String × Node)} {name : String}
  {names : List String}

theorem mem_belowEntries (h : (name, node) ∈ es) :
    [name] ∈ belowEntries es ∧ ∀ names ∈ belowNode node, name :: names ∈ belowEntries es := by
  induction es with
  | nil => cases h
  | cons e rest ih =>
    obtain ⟨n, child⟩ := e
    rw [belowEntries]
    rcases List.mem_cons.1 h with h | h
    · obtain ⟨rfl, rfl⟩ := Prod.mk.inj h
      refine ⟨List.mem_cons_self, fun names hnames => ?_⟩
      exact List.mem_cons_of_mem _ (List.mem_append_left _ (List.mem_map_of_mem hnames))
    · obtain ⟨hname, hnames⟩ := ih h
      exact ⟨List.mem_cons_of_mem _ (List.mem_append_right _ hname),
        fun names hn => List.mem_cons_of_mem _ (List.mem_append_right _ (hnames names hn))⟩

/-- Whatever is below a directory is found there. -/
theorem mem_belowNode (h : node.Below names) : names ∈ belowNode node := by
  induction h with
  | entry hentry _ => exact (mem_belowEntries hentry).1
  | deeper hentry _ _ ih => exact (mem_belowEntries hentry).2 _ ih

/-- The paths that names lead to, seen from a directory. -/
def pathsFrom (d : Path) (node : Node) : List Path :=
  (belowNode node).map fun names => { d with parts := d.parts ++ names }

/-- Every path below a directory is tested. -/
theorem files_eq (hd : t.isDirectory d = .ok true) (hnode : t.node? d = .ok node) :
    files t d = keepWhere t.isFile (pathsFrom d node) := by
  have hbelow : below t d = .ok (pathsFrom d node) := by
    rw [below, hd]
    simp only [bind, Except.bind, if_true, hnode, pathsFrom]
  rw [files, hbelow]
  rfl

/-- **Which files a directory stands for**: those that have one of the endings, or all of them if
there is no ending. A path below it that cannot be looked up is a fault. -/
theorem collect_cases (hd : t.isDirectory d = .ok true) (hnode : t.node? d = .ok node)
    (endings : List RawText) :
    (∃ p ∈ pathsFrom d node, ∃ fault, t.isFile p = .error fault ∧
      collect t d (endings.map .text) = stop (.system fault)) ∨
    ∃ found, collect t d (endings.map .text) = .ok found ∧ ∀ p, p ∈ found ↔
      p ∈ pathsFrom d node ∧ t.isFile p = .ok true ∧
        (endings = [] ∨ Ending.anyMatches p.name (endings.map .text) = .ok true) := by
  have hfiles := files_eq hd hnode
  obtain ⟨p, hp, fault, hfault, hkeep⟩ | ⟨regular, hregular, hmem⟩ :=
    keepWhere_cases t.isFile (pathsFrom d node)
  · exact .inl ⟨p, hp, fault, hfault, by rw [collect, hfiles, hkeep]⟩
  · right
    by_cases hempty : endings = []
    · refine ⟨regular.mergeSort precedes, by rw [collect, hfiles, hregular, hempty]; rfl,
        fun p => ?_⟩
      simp [hempty, hmem]
    · have hsome : (endings.map Ending.text).isEmpty = false := by simpa using hempty
      obtain ⟨p, -, e, he, -⟩ | ⟨wanted, hwanted, hmem'⟩ :=
        keepWhere_cases (fun p : Path => Ending.anyMatches p.name (endings.map .text)) regular
      · obtain ⟨matched, hmatched⟩ := Ending.exists_anyMatches p.name endings
        cases hmatched.symm.trans he
      · refine ⟨wanted.mergeSort precedes, ?_, fun p => ?_⟩
        · simp [collect, hfiles, hregular, hsome, hwanted]
        · simp [hempty, hmem', hmem, and_assoc]

end Discovery

namespace Target

variable {t : FileTree} {name : String} {d f : Path} {node : Node} {names : List String}

/-- A directory that is named. -/
theorem of_classify_directory (h : classify t name = .ok ⟨d, .directory⟩) :
    d = Path.ofString name ∧ t.isDirectory d = .ok true := by
  rw [classify] at h
  split at h
  · cases h
  · simp only at h
    split at h
    · cases h
    · rename_i hdir
      obtain rfl : Path.ofString name = d := congrArg Target.path (Except.ok.inj h)
      exact ⟨rfl, hdir⟩
    · split at h <;> cases h

/-- What is a file is no directory. -/
theorem isDirectory_of_isFile (h : t.isFile f = .ok true) : t.isDirectory f = .ok false := by
  rw [FileTree.isFile, FileTree.leadsTo] at h
  rw [FileTree.isDirectory, FileTree.leadsTo]
  split at h
  · cases h
  · rename_i hnul
    rw [if_neg hnul]
    cases hnode : t.node? f with
    | error r => rw [hnode] at h; cases r <;> cases h
    | ok node =>
      rw [hnode] at h
      cases node with
      | file content executable => rfl
      | link target | directory es => cases h

theorem classify_text (hf : f.IsNormal) (hparts : f.parts ≠ []) (h : t.isFile f = .ok true) :
    classify t f.text = .ok ⟨f, .singleFile⟩ := by
  have hread : Path.ofString f.text = f := Path.ofString_text hf
  have hname : f.text ≠ "" := by
    intro hempty
    rw [hempty] at hread
    exact hparts (by rw [← hread]; rfl)
  simp only [classify, if_neg hname, hread, isDirectory_of_isFile h, h]

/-- **A file stands for itself** if it has the ending of a source file. -/
theorem resolve_single_iff (hf : f.IsNormal) (hparts : f.parts ≠ []) (h : t.isFile f = .ok true)
    (sources headers : List RawText) :
    resolve t ⟨sources.map .text, headers.map .text⟩ f.text = .ok [f] ↔
      Ending.anyMatches f.name (sources.map .text) = .ok true := by
  obtain ⟨isSource, hsource⟩ := Ending.exists_anyMatches f.name sources
  obtain ⟨isHeader, hheader⟩ := Ending.exists_anyMatches f.name headers
  simp only [resolve, classify_text hf hparts h, bind, Except.bind, single, hsource]
  cases isSource with
  | true => simp
  | false => cases isHeader <;> simp [hheader, report]

/-- **A directory and a single file agree on what a source file is, if and only if an ending of
source files is given.** Let a name stand for the directory `d`, and names lead through directories
to a regular file below it. Unless a path below `d` cannot be looked up, which is then the fault
that is met, the directory stands for certain files. If an ending is given, the file is one of them
exactly if it stands for itself. If none is given, the file is one of them and does not stand for
itself. -/
theorem resolve_agrees_iff (sources headers : List RawText)
    (hd : classify t name = .ok ⟨d, .directory⟩) (hnode : t.node? d = .ok node)
    (hbelow : node.Below names) (hfile : t.isFile { d with parts := d.parts ++ names } = .ok true) :
    let f : Path := { d with parts := d.parts ++ names }
    let endings : FileEndings := ⟨sources.map .text, headers.map .text⟩
    (∃ p ∈ Discovery.pathsFrom d node, ∃ fault, t.isFile p = .error fault ∧
      resolve t endings name = stop (.system fault)) ∨
    ∃ found, resolve t endings name = .ok found ∧
      ((f ∈ found ↔ resolve t endings f.text = .ok [f]) ↔ sources ≠ []) := by
  intro f endings
  obtain ⟨hpath, hdir⟩ := of_classify_directory hd
  have hresolve : resolve t endings name = Discovery.collect t d (sources.map .text) := by
    simp only [resolve, hd, bind, Except.bind, endings, Ending.asSet_texts]
  obtain ⟨p, hp, fault, hfault, hcollect⟩ | ⟨found, hcollect, hmem⟩ :=
    Discovery.collect_cases hdir hnode sources
  · exact .inl ⟨p, hp, fault, hfault, hresolve.trans hcollect⟩
  have hnormal : f.IsNormal := by
    intro part hpart
    rcases List.mem_append.1 hpart with hpart | hpart
    · rw [hpath] at hpart
      exact Path.isNormal_ofString name part hpart
    · exact hbelow.isName part hpart
  have hparts : f.parts ≠ [] := List.append_ne_nil_of_right_ne_nil _ hbelow.ne_nil
  have hf : f ∈ Discovery.pathsFrom d node := List.mem_map_of_mem (Discovery.mem_belowNode hbelow)
  refine .inr ⟨found, hresolve.trans hcollect, ?_⟩
  rw [hmem, resolve_single_iff hnormal hparts hfile]
  by_cases hsources : sources = []
  · simp [hsources, hf, hfile, f, Ending.anyMatches]
  · simp [hsources, hf, hfile, f]

/-- A hidden file in a directory below the one that is named. -/
theorem resolve_agrees_on_hidden_file :
    let below : Node := .directory [("sub", .directory [(".x.cc", .file [] false)])]
    let t : FileTree := ⟨.directory [("d", below)], []⟩
    let f : Path := ⟨.relative, ["d", "sub", ".x.cc"]⟩
    let endings : FileEndings := ⟨[.text ".cc"], [.text ".hh"]⟩
    classify t "d" = .ok ⟨⟨.relative, ["d"]⟩, .directory⟩ ∧ t.node? ⟨.relative, ["d"]⟩ = .ok below ∧
      below.Below ["sub", ".x.cc"] ∧ t.isFile f = .ok true ∧
      ∃ found, resolve t endings "d" = .ok found ∧
        (f ∈ found ↔ resolve t endings "d/sub/.x.cc" = .ok [f]) := by
  intro below t f endings
  have hdir : t.isDirectory ⟨.relative, ["d"]⟩ = .ok true :=
    FileTree.leadsTo_of_find? Node.isDirectory below (.inr rfl) (by decide)
      (by decide) (by decide) rfl
  have hd : classify t "d" = .ok ⟨⟨.relative, ["d"]⟩, .directory⟩ := by
    have hpath : Path.ofString "d" = ⟨.relative, ["d"]⟩ := by decide
    simp only [classify, hpath, hdir]
    rfl
  have hnode : t.node? ⟨.relative, ["d"]⟩ = .ok below :=
    FileTree.node?_of_find? below (.inr rfl) (by decide) (by decide) rfl
  have hbelow : below.Below ["sub", ".x.cc"] :=
    .deeper List.mem_cons_self (by decide) (.entry List.mem_cons_self (by decide))
  have hfile : t.isFile f = .ok true :=
    FileTree.leadsTo_of_find? Node.isFile (.file [] false) (.inr rfl) (by decide)
      (by decide) (by decide) rfl
  have hsub : t.isFile ⟨.relative, ["d", "sub"]⟩ = .ok false :=
    FileTree.leadsTo_of_find? Node.isFile (.directory [(".x.cc", .file [] false)]) (.inr rfl)
      (by decide) (by decide)
      (by decide) rfl
  obtain ⟨p, hp, fault, hfault, -⟩ | ⟨found, hfound, hagree⟩ :=
    resolve_agrees_iff [".cc"] [".hh"] hd hnode hbelow hfile
  · have hpaths : Discovery.pathsFrom ⟨.relative, ["d"]⟩ below = [⟨.relative, ["d", "sub"]⟩, f] :=
      rfl
    rw [hpaths] at hp
    rcases List.mem_pair.1 hp with rfl | rfl
    · cases hsub.symm.trans hfault
    · cases hfile.symm.trans hfault
  · exact ⟨hd, hnode, hbelow, hfile, found, hfound, hagree.2 (by simp)⟩

/-- Without endings the directory stands for a file that does not stand for itself. -/
theorem resolve_disagrees_without_endings :
    let t : FileTree := ⟨.directory [("d", .directory [("a.cc", .file [] false)])], []⟩
    let f : Path := ⟨.relative, ["d", "a.cc"]⟩
    let endings : FileEndings := ⟨[], [.text ".hh"]⟩
    t.isFile f = .ok true ∧ resolve t endings "d" = .ok [f] ∧
      resolve t endings "d/a.cc" = report (.unknownEnding f) := by
  intro t f endings
  have hdir : t.isDirectory ⟨.relative, ["d"]⟩ = .ok true :=
    FileTree.leadsTo_of_find? Node.isDirectory (.directory [("a.cc", .file [] false)])
      (.inr rfl) (by decide)
      (by decide) (by decide) rfl
  have hnode : t.node? ⟨.relative, ["d"]⟩ = .ok (.directory [("a.cc", .file [] false)]) :=
    FileTree.node?_of_find? _ (.inr rfl) (by decide) (by decide) rfl
  have hfile : t.isFile f = .ok true :=
    FileTree.leadsTo_of_find? Node.isFile (.file [] false) (.inr rfl) (by decide)
      (by decide) (by decide) rfl
  have hpath : Path.ofString "d" = ⟨.relative, ["d"]⟩ := by decide
  have htext : f.text = "d/a.cc" := by decide
  have hclass : classify t f.text = .ok ⟨f, .singleFile⟩ :=
    classify_text (by decide) (by decide) hfile
  have hheader : Ending.anyMatches f.name endings.headers = .ok false := if_neg (by decide)
  have hbelow : Discovery.below t ⟨.relative, ["d"]⟩ = .ok [f] := by
    rw [Discovery.below, hdir]
    simp only [bind, Except.bind, if_true, hnode]
    rfl
  refine ⟨hfile, ?_, ?_⟩
  · simp [resolve, classify, hpath, hdir, bind, Except.bind, endings, Ending.asSet,
      Discovery.collect, Discovery.files, hbelow, Discovery.keepWhere, hfile]
  · rw [← htext, resolve, hclass]
    show single endings f = _
    rw [single, hheader]
    rfl

end Target
end LintRun
