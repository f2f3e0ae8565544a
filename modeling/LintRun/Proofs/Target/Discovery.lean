import Mathlib
import LintRun.Proofs.Files.Lookup
import LintRun.Proofs.Target.Agreement
import LintRun.Proofs.Text.Order

/-!
# Proofs — Target — The files of a directory

Which files a directory stands for, and in which order.

* `Discovery.mem_belowNode_iff`: the entries below a directory are those that names lead to, through
  directories and no links.
* `Discovery.isFile_below`: which of them are regular files.
* `Discovery.collect_is_exact`: the files that are found, all of them, in strictly increasing order,
  however directories list their entries.

The entries below a directory are told by the names that lead to them (`Node.at?`), which no order
of a listing has a part in. That a regular file among them is one is what the look-up of its whole
path says, so this is led back to the look-up from the directory on. Different names have different
texts, so sorting leaves one order.
-/

namespace LintRun

namespace Path

variable {p : Path} {c : Char}

theorem mem_joinWith_iff {parts : List String} (hc : c ≠ '/') :
    c ∈ (Text.joinWith "/" parts).toList ↔ ∃ part ∈ parts, c ∈ part.toList := by
  induction parts with
  | nil => simp [Text.joinWith]
  | cons part rest ih =>
    cases rest with
    | nil => simp [Text.joinWith]
    | cons next others =>
      rw [List.exists_mem_cons_iff, ← ih]
      simp [Text.joinWith, hc]

/-- A path has a NUL if a part of it has one. -/
theorem hasNul_iff : FileTree.hasNul p = true ↔ ∃ part ∈ p.parts, '\x00' ∈ part.toList := by
  rw [FileTree.hasNul, List.contains_iff_mem, text]
  split
  · rename_i hempty
    have hparts : p.parts = [] := by simpa using (Bool.and_eq_true_iff.1 hempty).2
    simp [hparts]
  · have hroot : '\x00' ∉ p.root.text.toList := by cases p.root <;> decide
    rw [String.toList_append, List.mem_append, mem_joinWith_iff (by decide)]
    simp [hroot]

end Path

namespace Ending

variable {endings : List RawText} {name : String}

/-- A name has one of the endings, or it has none. -/
theorem anyMatches_iff : anyMatches name (endings.map .text) = .ok true ↔
    ∃ ending ∈ endings, ending.units <:+ Text.codesOf name.toList := by
  induction endings with
  | nil => simp [anyMatches]
  | cons ending rest ih =>
    rw [List.map_cons, anyMatches, List.exists_mem_cons_iff, ← ih, isSuffix,
      ← List.isSuffixOf_iff_suffix]
    split <;> simp_all

end Ending

namespace Discovery

variable {t t' : FileTree} {d p : Path} {n entry : Node} {es : List (String × Node)} {name : String}
  {names : List String} {endings : List RawText} {found : List Path}

/-! ### What is below a directory -/

theorem nil_notMem_belowEntries : [] ∉ belowEntries es := by
  induction es with
  | nil => simp [belowEntries]
  | cons e rest ih => simp [belowEntries, ih]

theorem nil_notMem_belowNode : [] ∉ belowNode n := by
  cases n with
  | directory es => exact nil_notMem_belowEntries
  | file content executable | link target => simp [belowNode]

/-- What is below entries is one of them, or below one of them. -/
theorem cons_mem_belowEntries_iff : name :: names ∈ belowEntries es ↔
    ∃ child, (name, child) ∈ es ∧ (names = [] ∨ names ∈ belowNode child) := by
  induction es with
  | nil => simp [belowEntries]
  | cons e rest ih =>
    obtain ⟨other, child⟩ := e
    rw [belowEntries, List.mem_cons, List.mem_append, ih]
    simp only [List.cons.injEq, List.mem_map, List.mem_cons, Prod.mk.injEq]
    constructor
    · rintro (⟨rfl, rfl⟩ | ⟨_, hmem, rfl, rfl⟩ | ⟨child', hentry, hbelow⟩)
      · exact ⟨child, .inl ⟨rfl, rfl⟩, .inl rfl⟩
      · exact ⟨child, .inl ⟨rfl, rfl⟩, .inr hmem⟩
      · exact ⟨child', .inr hentry, hbelow⟩
    · rintro ⟨child', ⟨rfl, rfl⟩ | hentry, hbelow⟩
      · exact hbelow.imp (⟨rfl, ·⟩) fun hmem => .inl ⟨names, hmem, rfl, rfl⟩
      · exact .inr (.inr ⟨child', hentry, hbelow⟩)

/-- **The entries below a node**, each as the names that lead to it. -/
theorem mem_belowNode_iff (h : n.IsWellFormed) :
    names ∈ belowNode n ↔ names ≠ [] ∧ ∃ entry, n.at? names = some entry := by
  induction names generalizing n with
  | nil => simp [nil_notMem_belowNode]
  | cons name rest ih =>
    cases n with
    | file content executable | link target => simp [belowNode, Node.at?, Node.entry?, Node.entries]
    | directory es =>
      have hchild {child : Node} (hlookup : es.lookup name = some child) :
          (rest = [] ∨ rest ∈ belowNode child) ↔ ∃ entry, child.at? rest = some entry := by
        rw [ih (h.of_entry hlookup).2]
        cases rest <;> simp [Node.at?]
      rw [belowNode, cons_mem_belowEntries_iff]
      simp only [h.mem_iff, Node.at?, Node.entry?, Node.entries, Option.bind_eq_some_iff]
      constructor
      · rintro ⟨child, hlookup, hrest⟩
        obtain ⟨entry, hat⟩ := (hchild hlookup).1 hrest
        exact ⟨List.cons_ne_nil _ _, entry, child, hlookup, hat⟩
      · rintro ⟨-, entry, child, hlookup, hat⟩
        exact ⟨child, hlookup, (hchild hlookup).2 ⟨entry, hat⟩⟩

theorem nodup_belowEntries (hdistinct : (es.map Prod.fst).Nodup)
    (h : ∀ e ∈ es, (belowNode e.2).Nodup) :
    (belowEntries es).Nodup := by
  induction es with
  | nil => simp [belowEntries]
  | cons e rest ih =>
    rw [List.map_cons, List.nodup_cons] at hdistinct
    obtain ⟨hhead, hrest⟩ := List.forall_mem_cons.1 h
    -- whatever is found among the other entries begins with another name
    have hother (names : List String) : e.1 :: names ∉ belowEntries rest := by
      intro hmem
      obtain ⟨child, hentry, -⟩ := cons_mem_belowEntries_iff.1 hmem
      exact hdistinct.1 (List.mem_map.2 ⟨_, hentry, rfl⟩)
    rw [belowEntries, List.nodup_cons, List.mem_append, List.nodup_append]
    refine ⟨?_, hhead.map List.cons_injective, ih hdistinct.2 hrest, ?_⟩
    · simp [nil_notMem_belowNode, hother]
    · rintro _ hmem names hnames rfl
      obtain ⟨rest', -, rfl⟩ := List.mem_map.1 hmem
      exact hother rest' hnames

/-- No entry is found twice. -/
theorem nodup_belowNode (h : n.IsWellFormed) : (belowNode n).Nodup := by
  induction h with
  | file | link => exact List.nodup_nil
  | directory hdistinct _ _ ih => exact nodup_belowEntries hdistinct ih

/-! ### Paths below a directory -/

theorem mem_pathsFrom_iff (h : n.IsWellFormed) : p ∈ pathsFrom d n ↔
    ∃ names, names ≠ [] ∧ ∃ entry, n.at? names = some entry ∧
      p = { d with parts := d.parts ++ names } := by
  simp only [pathsFrom, List.mem_map, mem_belowNode_iff h]
  constructor
  · rintro ⟨names, ⟨hne, entry, hat⟩, rfl⟩
    exact ⟨names, hne, entry, hat, rfl⟩
  · rintro ⟨names, hne, entry, hat, rfl⟩
    exact ⟨names, ⟨hne, entry, hat⟩, rfl⟩

theorem isNormal_of_mem_pathsFrom (h : n.IsWellFormed) (hd : d.IsNormal) (hp : p ∈ pathsFrom d n) :
    p.IsNormal := by
  obtain ⟨names, -, entry, hat, rfl⟩ := (mem_pathsFrom_iff h).1 hp
  intro part hpart
  rcases List.mem_append.1 hpart with hpart | hpart
  · exact hd part hpart
  · exact ((h.at? hat).1 part hpart).toIsName

/-- Paths below a directory have different texts. -/
theorem nodup_text_pathsFrom (h : n.IsWellFormed) (hd : d.IsNormal) :
    ((pathsFrom d n).map Path.text).Nodup := by
  have hpaths : (pathsFrom d n).Nodup := (nodup_belowNode h).map fun names names' hsame => by
    simpa using hsame
  refine hpaths.map_on fun p hp q hq htext => ?_
  rw [← Path.ofString_text (isNormal_of_mem_pathsFrom h hd hp), htext,
    Path.ofString_text (isNormal_of_mem_pathsFrom h hd hq)]

/-- The paths below directories that are alike. -/
theorem mem_pathsFrom_alike {n' : Node} (halike : n.Alike n') (h : n.IsWellFormed)
    (h' : n'.IsWellFormed) :
    p ∈ pathsFrom d n ↔ p ∈ pathsFrom d n' := by
  have hsome (names : List String) : (∃ entry, n.at? names = some entry) ↔
      ∃ entry, n'.at? names = some entry := by
    have hface := congrArg Option.isSome (halike names)
    rw [Option.isSome_map, Option.isSome_map] at hface
    rw [← Option.isSome_iff_exists, hface, Option.isSome_iff_exists]
  simp only [mem_pathsFrom_iff h, mem_pathsFrom_iff h', exists_and_right, hsome]

/-! ### Which entries are regular files -/

/-- What a test can fail with: a path that is too long to be looked up. -/
theorem eq_nameTooLong_of_leadsTo {sort : Node → Bool} {fault : SystemFault}
    (h : t.leadsTo sort p = .error fault) :
    fault = Refusal.nameTooLong.on p.text := by
  rw [FileTree.leadsTo] at h
  split at h
  · cases h
  · split at h
    · cases h
    · exact (Except.error.inj h).symm
    · cases h

theorem exists_node_of_isDirectory (h : t.isDirectory d = .ok true) :
    FileTree.hasNul d = false ∧ ∃ es, t.node? d = .ok (.directory es) := by
  rw [FileTree.isDirectory, FileTree.leadsTo] at h
  split at h
  · cases h
  · rename_i hnul
    refine ⟨by simpa using hnul, ?_⟩
    split at h
    · rename_i node hnode
      cases node with
      | directory es => exact ⟨es, hnode⟩
      | file content executable | link target => cases h
    · cases h
    · cases h

theorem hasNul_below (hd : t.isDirectory d = .ok true) (h : n.IsWellFormed)
    (hat : n.at? names = some entry) :
    FileTree.hasNul { d with parts := d.parts ++ names } = false := by
  have hd' := (exists_node_of_isDirectory hd).1
  rw [← Bool.not_eq_true, Path.hasNul_iff] at hd' ⊢
  rintro ⟨part, hpart, hc⟩
  rcases List.mem_append.1 hpart with hpart | hpart
  · exact hd' ⟨part, hpart, hc⟩
  · exact ((h.at? hat).1 part hpart).noNul hc

/-- **An entry below a directory is a regular file, or it is not**, unless its path is too long or
it is a link. -/
theorem isFile_below (hd : t.isDirectory d = .ok true) (hnode : t.node? d = .ok n)
    (h : n.IsWellFormed) (hat : n.at? names = some entry) (hlink : entry.isLink = false)
    (hshort : ({ d with parts := d.parts ++ names } : Path).text.utf8ByteSize <
      FileTree.pathLimit) :
    t.isFile { d with parts := d.parts ++ names } = .ok entry.isFile := by
  rw [FileTree.isFile, FileTree.leadsTo, hasNul_below hd h hat,
    FileTree.node?_below hnode h hat hlink hshort]
  rfl

/-- What can be looked up has a path that is not too long. -/
theorem short_of_isFile {b : Bool} (hnul : FileTree.hasNul p = false) (h : t.isFile p = .ok b) :
    p.text.utf8ByteSize < FileTree.pathLimit := by
  rw [← not_le]
  intro hlong
  rw [FileTree.isFile, FileTree.leadsTo, hnul, FileTree.node?, FileTree.locate, if_pos hlong] at h
  cases h

/-- Of the paths that can be looked up, those of files and of links to files are regular files. -/
theorem isFile_below_iff {b : Bool} (hd : t.isDirectory d = .ok true) (hnode : t.node? d = .ok n)
    (h : n.IsWellFormed) (hat : n.at? names = some entry)
    (hok : t.isFile { d with parts := d.parts ++ names } = .ok b) :
    t.isFile { d with parts := d.parts ++ names } = .ok true ↔
      entry.isFile = true ∨ entry.isLink = true ∧
      t.isFile { d with parts := d.parts ++ names } = .ok true := by
  cases entry with
  | link target => simp [Node.isFile, Node.isLink]
  | file content executable | directory es =>
    rw [isFile_below hd hnode h hat rfl (short_of_isFile (hasNul_below hd h hat) hok)]
    simp [Node.isLink]

/-- A path below a directory that cannot be looked up is too long itself, or that of a link. -/
theorem long_or_isLink {fault : SystemFault} (hd : t.isDirectory d = .ok true)
    (hnode : t.node? d = .ok n) (h : n.IsWellFormed) (hat : n.at? names = some entry)
    (hfault : t.isFile { d with parts := d.parts ++ names } = .error fault) :
    FileTree.pathLimit ≤ ({ d with parts := d.parts ++ names } : Path).text.utf8ByteSize ∨
    entry.isLink = true := by
  by_contra hneither
  rw [not_or, not_le, Bool.not_eq_true] at hneither
  cases (isFile_below hd hnode h hat hneither.2 hneither.1).symm.trans hfault

/-! ### What is collected -/

/-- What passes a test that did not fail keeps its order. -/
theorem keepWhere_sublist {α ε : Type} {test : α → Except ε Bool} {xs kept : List α}
    (h : keepWhere test xs = .ok kept) : kept.Sublist xs ∧ ∀ x ∈ xs, ∃ b, test x = .ok b := by
  induction xs generalizing kept with
  | nil =>
    cases h
    simp
  | cons x rest ih =>
    rw [keepWhere] at h
    cases hx : test x with
    | error e => simp [hx, bind, Except.bind] at h
    | ok keep =>
      cases hrest : keepWhere test rest with
      | error e => simp [hx, hrest, bind, Except.bind] at h
      | ok kept' =>
        obtain ⟨hsub, htests⟩ := ih hrest
        obtain rfl : (if keep then x :: kept' else kept') = kept := by
          simpa [hx, hrest, bind, Except.bind] using h
        refine ⟨?_, List.forall_mem_cons.2 ⟨⟨keep, hx⟩, htests⟩⟩
        split
        · exact hsub.cons_cons x
        · exact hsub.cons x

/-- What is collected stands in order, and nothing could not be looked up. -/
theorem collect_sorted (hd : t.isDirectory d = .ok true) (hnode : t.node? d = .ok n)
    (h : collect t d (endings.map .text) = .ok found) :
    (∀ p ∈ pathsFrom d n, ∃ b, t.isFile p = .ok b) ∧
      ∃ wanted : List Path, wanted.Sublist (pathsFrom d n) ∧ found = wanted.mergeSort precedes := by
  rw [collect, files_eq hd hnode] at h
  cases hregular : keepWhere t.isFile (pathsFrom d n) with
  | error fault => simp [hregular, stop] at h
  | ok regular =>
    obtain ⟨hsub, htests⟩ := keepWhere_sublist hregular
    refine ⟨htests, ?_⟩
    simp only [hregular] at h
    split at h
    · rename_i wanted hwanted
      refine ⟨wanted, ?_, (Except.ok.inj h).symm⟩
      split at hwanted
      · cases hwanted
        exact hsub
      · exact (keepWhere_sublist hwanted).1.trans hsub
    · cases h

/-- **What is collected stands in strictly increasing order.** -/
theorem collect_pairwise (hd : t.isDirectory d = .ok true) (hnode : t.node? d = .ok n)
    (hwf : n.IsWellFormed) (hnormal : d.IsNormal)
    (h : collect t d (endings.map .text) = .ok found) :
    found.Pairwise (Text.Precedes Path.text) := by
  -- paths with different names have different texts, so no two are level
  obtain ⟨-, wanted, hsub, rfl⟩ := collect_sorted hd hnode h
  exact Text.pairwise_precedes_mergeSort ((nodup_text_pathsFrom hwf hnormal).sublist (hsub.map _))

/-- **How directories list their entries does not matter.** -/
theorem collect_alike (hwf : t.root.IsWellFormed) (hwf' : t'.root.IsWellFormed)
    (halike : t.Alike t') (hnormal : d.IsNormal) (hd : t.isDirectory d = .ok true)
    (h : collect t d (endings.map .text) = .ok found) :
    collect t' d (endings.map .text) = .ok found := by
  obtain ⟨-, es, hnode⟩ := exists_node_of_isDirectory hd
  have hfile (p : Path) : t.isFile p = t'.isFile p :=
    halike.leadsTo (fun _ _ => Node.Alike.isFile_eq) p
  have hd' : t'.isDirectory d = .ok true := by
    rw [← hd]
    exact (halike.leadsTo (fun _ _ => Node.Alike.isDirectory_eq) d).symm
  obtain ⟨n', hnode', hnalike⟩ := halike.node? hnode
  have hn : (Node.directory es).IsWellFormed := FileTree.isWellFormed_of_node? hwf hnode
  have hn' : n'.IsWellFormed := FileTree.isWellFormed_of_node? hwf' hnode'
  -- the other tree has the same paths and the same files; both results are sorted, so they are one
  -- list
  have hpaths (p : Path) := mem_pathsFrom_alike (d := d) (p := p) hnalike hn hn'
  obtain ⟨p, hp, fault, hfault, -⟩ | ⟨found', hfound', hmem'⟩ := collect_cases hd' hnode' endings
  · obtain ⟨b, hb⟩ := (collect_sorted hd hnode h).1 p ((hpaths p).2 hp)
    rw [hfile, hfault] at hb
    cases hb
  · obtain ⟨p, -, fault, -, hcollect⟩ | ⟨found'', hfound'', hmem⟩ := collect_cases hd hnode endings
    · cases h.symm.trans hcollect
    · obtain rfl : found = found'' := Except.ok.inj (h.symm.trans hfound'')
      rw [hfound', Text.eq_of_pairwise_precedes (collect_pairwise hd hnode hn hnormal h)
        (collect_pairwise hd' hnode' hn' hnormal hfound') fun p => by
        rw [hmem, hmem', hpaths, hfile]]

/-- **The files of a directory are found, and no others.** Let names be distinct in every directory.
Unless a path below the directory `d` cannot be looked up, being too long itself or that of a link,
which is then the fault that is met, certain files are found. These are the regular files below `d`,
and the links there that lead to one, without passing through a link to a directory, whose names
have one of the endings, if there is one. They stand in strictly increasing order of their texts,
and a tree in which directories list the same in another order gives the same. -/
theorem collect_is_exact (hwf : t.root.IsWellFormed) (hnormal : d.IsNormal)
    (hd : t.isDirectory d = .ok true) (endings : List RawText) :
    let path (names : List String) : Path := { d with parts := d.parts ++ names }
    ∃ es, t.node? d = .ok (.directory es) ∧
    ((∃ names entry, names ≠ [] ∧ (Node.directory es).at? names = some entry ∧
        (FileTree.pathLimit ≤ (path names).text.utf8ByteSize ∨ entry.isLink = true) ∧
        t.isFile (path names) = .error (Refusal.nameTooLong.on (path names).text) ∧
        collect t d (endings.map .text) =
          stop (.system (Refusal.nameTooLong.on (path names).text))) ∨
      ∃ found, collect t d (endings.map .text) = .ok found ∧
        (∀ p, p ∈ found ↔ ∃ names entry, names ≠ [] ∧
          (Node.directory es).at? names = some entry ∧ p = path names ∧
          (entry.isFile = true ∨ entry.isLink = true ∧ t.isFile p = .ok true) ∧
          (endings = [] ∨ ∃ ending ∈ endings, ending.units <:+ Text.codesOf p.name.toList)) ∧
        found.Pairwise (fun p q => Text.compareCodes p.text.toList q.text.toList = .lt) ∧
        ∀ t', t'.root.IsWellFormed → t.Alike t' →
          collect t' d (endings.map .text) = .ok found) := by
  intro path
  obtain ⟨-, es, hnode⟩ := exists_node_of_isDirectory hd
  have hn : (Node.directory es).IsWellFormed := FileTree.isWellFormed_of_node? hwf hnode
  refine ⟨es, hnode, ?_⟩
  obtain ⟨p, hp, fault, hfault, hcollect⟩ | ⟨found, hcollect, hmem⟩ :=
    collect_cases hd hnode endings
  · obtain ⟨names, hne, entry, hat, rfl⟩ := (mem_pathsFrom_iff hn).1 hp
    have hlong := long_or_isLink hd hnode hn hat hfault
    obtain rfl := eq_nameTooLong_of_leadsTo hfault
    exact .inl ⟨names, entry, hne, hat, hlong, hfault, hcollect⟩
  · refine .inr ⟨found, hcollect, fun p => ?_, collect_pairwise hd hnode hn hnormal hcollect,
      fun t' hwf' halike => collect_alike hwf hwf' halike hnormal hd hcollect⟩
    rw [hmem, mem_pathsFrom_iff hn, Ending.anyMatches_iff]
    have htested := (collect_sorted hd hnode hcollect).1
    constructor
    · rintro ⟨⟨names, hne, entry, hat, rfl⟩, hfile, hending⟩
      exact ⟨names, entry, hne, hat, rfl, (isFile_below_iff hd hnode hn hat hfile).1 hfile, hending⟩
    · rintro ⟨names, entry, hne, hat, rfl, hfile, hending⟩
      obtain ⟨b, hb⟩ := htested _ ((mem_pathsFrom_iff hn).2 ⟨names, hne, entry, hat, rfl⟩)
      exact ⟨⟨names, hne, entry, hat, rfl⟩, (isFile_below_iff hd hnode hn hat hb).2 hfile, hending⟩

/-- A hidden file in a directory, a link to it, and a link to the directory, in two orders. -/
theorem collect_is_exact_beside_links :
    let sub : Node := .directory [(".x.cc", .file [] false)]
    let entries : List (String × Node) :=
      [("l", .link "b"), ("b", sub), ("a.cc", .link "b/.x.cc"), ("c.hh", .file [] false)]
    let tree (es : List (String × Node)) : FileTree := ⟨.directory [("d", .directory es)], []⟩
    let t := tree entries
    let d : Path := ⟨.relative, ["d"]⟩
    t.root.IsWellFormed ∧ d.IsNormal ∧ t.isDirectory d = .ok true ∧
      collect t d [.text ".cc"] = .ok [⟨.relative, ["d", "a.cc"]⟩,
        ⟨.relative, ["d", "b", ".x.cc"]⟩] ∧
      collect (tree entries.reverse) d [.text ".cc"] = collect t d [.text ".cc"] := by
  intro sub entries tree t d
  have hwf (es : List (String × Node)) (hperm : es.Perm entries) : (tree es).root.IsWellFormed := by
    simp only [tree, Node.IsWellFormed.directory_iff, List.mem_singleton, forall_eq, hperm.mem_iff]
    refine ⟨by simp, by decide, ((hperm.map _).nodup_iff).2 (by decide), by decide, ?_⟩
    simp [entries, sub, Node.IsWellFormed.directory_iff]
    decide
  have hdir : t.isDirectory d = .ok true :=
    FileTree.leadsTo_of_find? Node.isDirectory (.directory entries) (.inr rfl) (by decide)
      (by decide) (by decide) rfl
  have hnode : t.node? d = .ok (.directory entries) :=
    FileTree.node?_of_find? _ (.inr rfl) (by decide) (by decide) rfl
  have hsub : t.isFile ⟨.relative, ["d", "b"]⟩ = .ok false :=
    FileTree.leadsTo_of_find? Node.isFile sub (.inr rfl) (by decide) (by decide) (by decide) rfl
  have hhidden : t.isFile ⟨.relative, ["d", "b", ".x.cc"]⟩ = .ok true :=
    FileTree.leadsTo_of_find? Node.isFile (.file [] false) (.inr rfl) (by decide)
      (by decide) (by decide) rfl
  have hheader : t.isFile ⟨.relative, ["d", "c.hh"]⟩ = .ok true :=
    FileTree.leadsTo_of_find? Node.isFile (.file [] false) (.inr rfl) (by decide)
      (by decide) (by decide) rfl
  have hlink : t.isFile ⟨.relative, ["d", "a.cc"]⟩ = .ok true := by
    have hat : t.IsLinkAt ⟨.relative, ["d", "a.cc"]⟩ "d" "a.cc" "b/.x.cc" entries :=
      ⟨.inr rfl, by decide, rfl, by decide, rfl, rfl, by decide +kernel⟩
    exact hat.leadsTo Node.isFile (by decide) (by decide) (n := .file [] false) rfl
  have hlink' : t.isFile ⟨.relative, ["d", "l"]⟩ = .ok false := by
    have hat : t.IsLinkAt ⟨.relative, ["d", "l"]⟩ "d" "l" "b" entries :=
      ⟨.inr rfl, by decide, rfl, by decide, rfl, rfl, by decide +kernel⟩
    exact hat.leadsTo Node.isFile (by decide) (by decide) (n := sub) rfl
  have hcollect : collect t d [.text ".cc"] =
      .ok [⟨.relative, ["d", "a.cc"]⟩, ⟨.relative, ["d", "b", ".x.cc"]⟩] := by
    have hpaths : pathsFrom d (.directory entries) =
      [⟨.relative, ["d", "l"]⟩, ⟨.relative, ["d", "b"]⟩,
        ⟨.relative, ["d", "b", ".x.cc"]⟩, ⟨.relative, ["d", "a.cc"]⟩, ⟨.relative, ["d", "c.hh"]⟩] :=
      rfl
    have hfiles : keepWhere t.isFile (pathsFrom d (.directory entries)) =
        .ok [⟨.relative, ["d", "b", ".x.cc"]⟩, ⟨.relative, ["d", "a.cc"]⟩,
          ⟨.relative, ["d", "c.hh"]⟩] := by
      simp [hpaths, keepWhere, hlink', hsub, hhidden, hlink, hheader, bind, Except.bind]
    have hsorted :
        List.mergeSort [⟨.relative, ["d", "b", ".x.cc"]⟩, ⟨.relative, ["d", "a.cc"]⟩] precedes =
          [⟨.relative, ["d", "a.cc"]⟩, ⟨.relative, ["d", "b", ".x.cc"]⟩] := by
      have hlater : precedes ⟨.relative, ["d", "b", ".x.cc"]⟩ ⟨.relative, ["d", "a.cc"]⟩ =
          false := by decide
      simp [List.mergeSort, hlater]
    rw [collect, files_eq hdir hnode, hfiles]
    exact congrArg Except.ok hsorted
  refine ⟨hwf entries (.refl _), by decide, hdir, hcollect, ?_⟩
  obtain ⟨es, -, ⟨names, entry, -, -, -, -, hfault⟩ | ⟨found, hfound, -, -, halike⟩⟩ :=
    collect_is_exact (hwf entries (.refl _)) (by decide) hdir [".cc"]
  · cases hcollect.symm.trans hfault
  · have hreversed : t.Alike (tree entries.reverse) :=
      ⟨.of_forall₂ (.cons ⟨rfl, .of_perm (by decide) entries.reverse_perm.symm⟩ .nil), rfl⟩
    exact (halike _ (hwf _ entries.reverse_perm) hreversed).trans hfound.symm

/-- A link that leads nowhere keeps a file from being found, if the name that it leads to is too
long. -/
theorem collect_stumbles_over_dangling_link :
    let long := String.ofList (List.replicate 300 'x')
    let t : FileTree :=
      ⟨.directory [("d", .directory [("l", .link long), ("a.cc", .file [] false)])], []⟩
    let d : Path := ⟨.relative, ["d"]⟩
    t.root.IsWellFormed ∧ t.isDirectory d = .ok true ∧
      t.isFile ⟨.relative, ["d", "a.cc"]⟩ = .ok true ∧
      collect t d [.text ".cc"] = stop (.system (Refusal.nameTooLong.on "d/l")) := by
  intro long t d
  set es : List (String × Node) := [("l", .link long), ("a.cc", .file [] false)]
  have hdir : t.isDirectory d = .ok true :=
    FileTree.leadsTo_of_find? Node.isDirectory (.directory es) (.inr rfl) (by decide)
      (by decide) (by decide) rfl
  have hnode : t.node? d = .ok (.directory es) :=
    FileTree.node?_of_find? _ (.inr rfl) (by decide) (by decide) rfl
  have hfile : t.isFile ⟨.relative, ["d", "a.cc"]⟩ = .ok true :=
    FileTree.leadsTo_of_find? Node.isFile (.file [] false) (.inr rfl) (by decide)
      (by decide) (by decide) rfl
  have hwf : t.root.IsWellFormed := by
    simp [t, Node.IsWellFormed.directory_iff]
    decide
  have hlong : t.isFile ⟨.relative, ["d", "l"]⟩ = .error (Refusal.nameTooLong.on "d/l") := by
    have hat : t.IsLinkAt ⟨.relative, ["d", "l"]⟩ "d" "l" long es :=
      ⟨.inr rfl, by decide, rfl, by decide, rfl, rfl, by decide +kernel⟩
    have hsize : long.utf8ByteSize = 300 := by
      rw [String.utf8ByteSize_ofList]
      decide +kernel
    have hslash : '/' ∉ long.toList := by
      rw [String.toList_ofList]
      exact fun h => absurd (List.eq_of_mem_replicate h) (by decide)
    exact hat.leadsTo_of_long Node.isFile (by decide) hslash (by rw [hsize]; decide)
  have hpaths : pathsFrom d (.directory es) =
      [⟨.relative, ["d", "l"]⟩, ⟨.relative, ["d", "a.cc"]⟩] := rfl
  refine ⟨hwf, hdir, hfile, ?_⟩
  rw [collect, files_eq hdir hnode, hpaths, keepWhere, hlong]
  rfl

end Discovery
end LintRun
