import Mathlib
import LintRun.Files.Tree
import LintRun.Proofs.Text.Pieces

/-!
# Proofs — Files — Trees

How names are looked up, one after the other, and where a path leads that passes through no link.

* `Path.ofString_of_isPart`: the path that a text without slashes stands for.
* `Node.find?`: what stands under names, one after the other.
* `FileTree.move`: what a look-up does at the next name; `walk_cons` and `walk_induction` go from
  one name to the next.
* `FileTree.walk_name`: a name leads where the entry under it leads.
* `FileTree.walk_of_find?`: names that are looked up as they stand lead there.
* `FileTree.leadsTo_of_find?`: what a test says of a path that leads somewhere.
* `FileTree.leadsTo_of_long`, `FileTree.leadsTo_ofString_of_long`: a name that is too long is a
  fault.
-/

namespace LintRun

/-- A text without slashes is a path of one part. -/
theorem Path.ofString_of_isPart {name : String} (hslash : '/' ∉ name.toList)
    (hpart : isPart name = true) :
    ofString name = ⟨.relative, [name]⟩ := by
  have hroot : rootOf name.toList = .relative := by
    unfold rootOf
    split <;> simp_all
  rw [ofString, hroot, pieces, Text.splitAt_of_notMem hslash]
  simp [hpart]

theorem Path.text_singleton (name : String) : text ⟨.relative, [name]⟩ = name := by
  simp [text, Text.joinWith, Root.text]

/-- What stands under names, one after the other, if none of it is a link. -/
def Node.find? (start : Node) : List String → Option Node
  | [] => some start
  | name :: rest =>
    match start.entry? name with
    | none | some (.link _) => none
    | some node => node.find? rest

namespace FileTree

/-- A name that is looked up as it stands. -/
structure IsPlain (name : String) : Prop where
  nonempty : name ≠ ""
  ne_dot : name ≠ "."
  ne_up : name ≠ ".."
  short : name.utf8ByteSize < nameLimit

instance (name : String) : Decidable (IsPlain name) :=
  decidable_of_iff (name ≠ "" ∧ name ≠ "." ∧ name ≠ ".." ∧ name.utf8ByteSize < nameLimit)
    ⟨fun ⟨h₁, h₂, h₃, h₄⟩ => ⟨h₁, h₂, h₃, h₄⟩, fun ⟨h₁, h₂, h₃, h₄⟩ => ⟨h₁, h₂, h₃, h₄⟩⟩

variable {t : FileTree} {p : Path} {aim : Aim} {links left : Nat} {n name : String}
  {es : List (String × Node)}
  {above trail mid : Trail} {rest names : List String} {start node : Node}

/-! ### One name after the other -/

/-- What a look-up does at a name: it ends, or it goes on from a place, with the names that are
left. -/
inductive Move
  | ends (outcome : Except Refusal Place)
  | goesOn (links : Nat) (trail : Trail) (names : List String)

/-- What the look-up comes to. -/
def Move.run (aim : Aim) : Move → Except Refusal Place
  | .ends outcome => outcome
  | .goesOn links trail names => walk aim links trail names

/-- The entries of the directory at the head of a trail. -/
def listing? : Trail → Option (List (String × Node))
  | (_, .directory es) :: _ => some es
  | _ => none

theorem listing?_eq_some_iff :
    listing? trail = some es ↔ ∃ n above, trail = (n, .directory es) :: above := by
  rcases trail with _ | ⟨⟨n, _ | _ | _⟩, above⟩ <;> simp [listing?]

/-- The move at a name, from what stands under it. -/
def follow (aim : Aim) (links : Nat) (trail : Trail) (name : String) (rest : List String) :
    Option Node → Move
  | none => .ends (if rest.isEmpty then .ok (.absent trail name) else .error .noEntry)
  | some (.link target) =>
    if rest.isEmpty && aim = .entry then .ends (.ok (.present ((name, .link target) :: trail)))
    else match links with
      | 0 => .ends (.error .tooManyLinks)
      | links + 1 =>
        .goesOn links (if target.startsWith "/" then top trail else trail)
          (Path.pieces target.toList ++ rest)
  | some node => .goesOn links ((name, node) :: trail) rest

/-- The move at the next name. -/
def move (aim : Aim) (links : Nat) (trail : Trail) (name : String) (rest : List String) : Move :=
  match listing? trail with
  | none => .ends (.error .notDirectory)
  | some es =>
    if name = "" || name = "." then .goesOn links trail rest
    else if name = ".." then .goesOn links (up trail) rest
    else if aim = .file && !rest.isEmpty && rest.all (· = "") then .ends (.error .isDirectory)
    else if nameLimit ≤ name.utf8ByteSize then .ends (.error .nameTooLong)
    else follow aim links trail name rest (es.lookup name)

/-- **A look-up makes the move at the next name.** -/
theorem walk_cons (aim : Aim) (links : Nat) (trail : Trail) (name : String) (rest : List String) :
    walk aim links trail (name :: rest) = (move aim links trail name rest).run aim := by
  rcases trail with _ | ⟨⟨n, content | target | es⟩, above⟩
  · rw [walk]
    exacts [rfl, by simp]
  · rw [walk]
    exacts [rfl, by simp]
  · rw [walk]
    exacts [rfl, by simp]
  · rw [walk, move]
    simp only [listing?, apply_ite (Move.run aim)]
    rcases es.lookup name with _ | content | target | entries
    · rfl
    · rfl
    · cases links <;> simp only [follow, apply_ite (Move.run aim)] <;> rfl
    · rfl

theorem follow_entry (hlink : ∀ target, node ≠ .link target) :
    follow aim links trail name rest (some node) = .goesOn links ((name, node) :: trail) rest := by
  cases node with
  | link target => exact absurd rfl (hlink target)
  | file content executable | directory entries => rfl

/-- What stands under a name is entered, or the link that it is leads somewhere else. -/
theorem follow_cases {found : Option Node}
    (h : follow aim links trail name rest found = .goesOn left mid names) :
    (left = links ∧ names = rest ∧ ∃ node, found = some node ∧ mid = (name, node) :: trail) ∨
      links = left + 1 ∧ mid ∈ [trail, top trail] ∧ ∃ target : String, names =
        Path.pieces target.toList ++ rest := by
  rcases found with _ | content | target | entries
  · cases h
  · cases h
    exact .inl ⟨rfl, rfl, _, rfl, rfl⟩
  · simp only [follow] at h
    split at h
    · cases h
    · cases links with
      | zero => cases h
      | succ links =>
        cases h
        refine .inr ⟨rfl, ?_, target, rfl⟩
        split <;> simp
  · cases h
    exact .inl ⟨rfl, rfl, _, rfl, rfl⟩

/-- **Where a look-up goes on**: here, above, in what stands under the name, or where a link
leads. -/
theorem move_cases (h : move aim links trail name rest = .goesOn left mid names) :
    (left = links ∧ names = rest ∧ (mid ∈ [trail, up trail] ∨
        ∃ es node, listing? trail = some es ∧ es.lookup name = some node ∧
          mid = (name, node) :: trail)) ∨
      links = left + 1 ∧ mid ∈ [trail, top trail] ∧ ∃ target : String, names =
        Path.pieces target.toList ++ rest := by
  unfold move at h
  split at h
  · cases h
  next es hlisting =>
    split_ifs at h
    · cases h
      simp
    · cases h
      simp
    · obtain ⟨hleft, hnames, node, hentry, hmid⟩ | hlink := follow_cases h
      · exact .inl ⟨hleft, hnames, .inr ⟨es, node, hlisting, hentry, hmid⟩⟩
      · exact .inr hlink

/-- **Induction along a look-up**: from where it goes on to where it is. -/
@[elab_as_elim]
theorem walk_induction {motive : Nat → Trail → List String → Prop} (aim : Aim)
    (nil : ∀ links trail, motive links trail [])
    (cons : ∀ links trail name rest,
      (∀ left mid names, move aim links trail name rest = .goesOn left mid names →
        motive left mid names) → motive links trail (name :: rest))
    (links : Nat) (trail : Trail) (names : List String) : motive links trail names := by
  -- a link puts names in front of the others, but uses up one of the links
  induction links using Nat.strongRecOn generalizing trail names with
  | ind links ihLinks =>
    induction names generalizing trail with
    | nil => exact nil links trail
    | cons name rest ih =>
      refine cons links trail name rest fun left mid names hmove => ?_
      obtain ⟨rfl, rfl, -⟩ | ⟨rfl, -⟩ := move_cases hmove
      · exact ih mid
      · exact ihLinks left (Nat.lt_succ_self left) mid names

/-- A look-up that comes to a place goes on at each name. -/
theorem exists_move {trail' : Trail}
    (h : walk .target links trail (name :: rest) = .ok (.present trail')) :
    ∃ left mid names, move .target links trail name rest = .goesOn left mid names ∧
      walk .target left mid names = .ok (.present trail') := by
  rw [walk_cons] at h
  cases hmove : move .target links trail name rest with
  | goesOn left mid names => exact ⟨left, mid, names, rfl, by rwa [hmove] at h⟩
  | ends outcome =>
    rw [hmove] at h
    obtain rfl : outcome = .ok (.present trail') := h
    unfold move follow at hmove
    grind

theorem follow_append {found : Option Node}
    (h : follow .target links trail name rest found = .goesOn left mid names) (more : List String) :
    follow .target links trail name (rest ++ more) found = .goesOn left mid (names ++ more) := by
  rcases found with _ | content | target | entries
  · cases h
  · cases h
    rfl
  · cases links with
    | zero => simp [follow] at h
    | succ links =>
      simp only [follow, reduceCtorEq, decide_false, Bool.and_false, Bool.false_eq_true,
        if_false] at h ⊢
      cases h
      rw [List.append_assoc]
  · cases h
    rfl

/-- Names behind the others do not change where a look-up goes on. -/
theorem move_append (h : move .target links trail name rest = .goesOn left mid names)
    (more : List String) :
    move .target links trail name (rest ++ more) = .goesOn left mid (names ++ more) := by
  unfold move at h ⊢
  split at h
  · cases h
  next es hlisting =>
    simp only [reduceCtorEq, decide_false, Bool.false_and, Bool.false_eq_true, if_false] at h ⊢
    split_ifs at h ⊢
    · cases h
      rfl
    · cases h
      rfl
    · exact follow_append h more

/-! ### Names that are looked up as they stand -/

/-- **A name leads where the entry under it leads.** -/
theorem walk_name (h : IsPlain name) (haim : aim ≠ .file) :
    walk aim links ((n, .directory es) :: above) (name :: rest) =
      (follow aim links ((n, .directory es) :: above) name rest (es.lookup name)).run aim := by
  have hmoves : ¬(name = "" || name = ".") = true := by simp [h.nonempty, h.ne_dot]
  have hfile : ¬(aim = .file && !rest.isEmpty && rest.all (· = "")) = true := by simp [haim]
  rw [walk_cons, move, listing?]
  simp only [if_neg hmoves, if_neg h.ne_up, if_neg hfile, if_neg (Nat.not_le.2 h.short)]

/-- A name leads to what stands under it, unless that is a link. -/
theorem walk_entry (hname : IsPlain name) (haim : aim ≠ .file) (hentry : es.lookup name = some node)
    (hlink : ∀ target, node ≠ .link target) :
    walk aim links ((n, .directory es) :: above) (name :: rest) =
      walk aim links ((name, node) :: (n, .directory es) :: above) rest := by
  rw [walk_name hname haim, hentry, follow_entry hlink, Move.run]

/-- **Names lead to what stands under them**, one after the other. -/
theorem walk_of_find? (links : Nat) (n : String) (above : Trail) (haim : aim ≠ .file)
    (hplain : ∀ name ∈ names, IsPlain name) (hfind : start.find? names = some node) :
    ∃ m trail, walk aim links ((n, start) :: above) names =
      .ok (.present ((m, node) :: trail)) := by
  -- each name that is found lengthens the trail, so the induction is over all trails
  induction names generalizing start n above with
  | nil =>
    obtain rfl : start = node := Option.some.inj hfind
    exact ⟨n, above, by rw [walk]⟩
  | cons name rest ih =>
    obtain ⟨hname, hrest⟩ := List.forall_mem_cons.1 hplain
    cases start with
    | file content executable | link target => cases hfind
    | directory es =>
      simp only [Node.find?, Node.entry?, Node.entries] at hfind
      cases hentry : es.lookup name with
      | none => simp [hentry] at hfind
      | some child =>
        have hlink (target : String) : child ≠ .link target := by
          rintro rfl
          simp [hentry] at hfind
        have hchild : child.find? rest = some node := by
          cases child with
          | link target => exact absurd rfl (hlink target)
          | file content executable => simpa [hentry] using hfind
          | directory entries => simpa [hentry] using hfind
        rw [walk_entry hname haim hentry hlink]
        exact ih name ((n, .directory es) :: above) hrest hchild

theorem ne_of_long (hlong : nameLimit ≤ name.utf8ByteSize) {other : String}
    (hshort : other.utf8ByteSize < nameLimit) : name ≠ other := by
  rintro rfl
  exact absurd hshort (Nat.not_lt.2 hlong)

/-- A name that is too long leads nowhere. -/
theorem walk_long (hlong : nameLimit ≤ name.utf8ByteSize) (haim : aim ≠ .file) :
    walk aim links ((n, .directory es) :: above) (name :: rest) = .error .nameTooLong := by
  have hempty : name ≠ "" := ne_of_long hlong (by decide)
  have hdot : name ≠ "." := ne_of_long hlong (by decide)
  rw [walk, if_neg (by simp [hempty, hdot]), if_neg (ne_of_long hlong (by decide)),
    if_neg (by simp [haim]), if_pos hlong]

/-- The working directory is the root, or the path does not depend on it. -/
def StartsAtRoot (t : FileTree) (p : Path) : Prop := p.isAbsolute = true ∨ t.home = []

theorem locate_eq (hstart : t.StartsAtRoot p) (hshort : p.text.utf8ByteSize < pathLimit)
    (aim : Aim) :
    t.locate aim p = walk aim linkLimit [("", t.root)] p.parts := by
  rw [locate, if_neg (Nat.not_le.2 hshort)]
  rcases hstart with habs | hhome
  · rw [if_pos habs]
  · have htrail : t.homeTrail = [("", t.root)] := by rw [homeTrail, hhome, trailFrom]
    simp only [htrail, ite_self]

/-- A path leads to what stands under its names. -/
theorem node?_of_find? (node : Node) (hstart : t.StartsAtRoot p)
    (hshort : p.text.utf8ByteSize < pathLimit) (hplain : ∀ name ∈ p.parts, IsPlain name)
    (hfind : t.root.find? p.parts = some node) : t.node? p = .ok node := by
  obtain ⟨m, trail, hwalk⟩ :=
    walk_of_find? linkLimit "" [] (show Aim.target ≠ .file by decide) hplain hfind
  rw [node?, locate_eq hstart hshort, hwalk]

/-- **What a test says of a path that leads somewhere.** -/
theorem leadsTo_of_find? (sort : Node → Bool) (node : Node) (hstart : t.StartsAtRoot p)
    (hnul : hasNul p = false) (hshort : p.text.utf8ByteSize < pathLimit)
    (hplain : ∀ name ∈ p.parts, IsPlain name) (hfind : t.root.find? p.parts = some node) :
    t.leadsTo sort p = .ok (sort node) := by
  rw [leadsTo, hnul, node?_of_find? node hstart hshort hplain hfind]
  rfl

/-- A name that the root does not have leads nowhere, and no more does what would be below it. -/
theorem leadsTo_of_absent (sort : Node → Bool) (hstart : t.StartsAtRoot p)
    (hshort : p.text.utf8ByteSize < pathLimit) (hroot : t.root = .directory es)
    (hparts : p.parts = name :: rest) (hname : IsPlain name) (hentry : es.lookup name = none) :
    t.leadsTo sort p = .ok false := by
  rw [leadsTo, node?, locate_eq hstart hshort, hroot, hparts, walk_name hname (by decide), hentry]
  cases rest <;> exact ite_self _

theorem read_of_find? {content : List UInt8} {executable : Bool} (hstart : t.StartsAtRoot p)
    (hshort : p.text.utf8ByteSize < pathLimit) (hplain : ∀ name ∈ p.parts, IsPlain name)
    (hfind : t.root.find? p.parts = some (.file content executable)) : t.read p = .ok content := by
  rw [read, node?_of_find? _ hstart hshort hplain hfind]

/-- What is a file has a content. -/
theorem node?_of_isFile (h : t.isFile p = .ok true) :
    ∃ content executable, t.node? p = .ok (.file content executable) := by
  rw [isFile, leadsTo] at h
  split at h
  · cases h
  · split at h
    · next node hnode =>
      cases node with
      | file content executable => exact ⟨content, executable, hnode⟩
      | directory | link => cases h
    · cases h
    · cases h

/-- What a test says of a path depends on what it leads to. -/
theorem leadsTo_congr {t' : FileTree} (h : t'.node? p = t.node? p) (sort : Node → Bool) :
    t'.leadsTo sort p = t.leadsTo sort p := by
  rw [leadsTo, leadsTo, h]

theorem read_congr {t' : FileTree} (h : t'.node? p = t.node? p) : t'.read p = t.read p := by
  rw [read, read, h]

/-- **A name that is too long is a fault.** -/
theorem leadsTo_of_long (sort : Node → Bool) (hstart : t.StartsAtRoot p) (hnul : hasNul p = false)
    (hshort : p.text.utf8ByteSize < pathLimit) (hroot : t.root = .directory es)
    (hparts : p.parts = name :: rest) (hlong : nameLimit ≤ name.utf8ByteSize) :
    t.leadsTo sort p = .error (Refusal.nameTooLong.on p.text) := by
  rw [leadsTo, hnul, node?, locate_eq hstart hshort, hroot, hparts, walk_long hlong (by decide)]
  rfl

/-- A text that is too long for a name, but not for a path, is a fault. -/
theorem leadsTo_ofString_of_long (sort : Node → Bool) (hhome : t.home = [])
    (hroot : t.root = .directory es) (hslash : '/' ∉ name.toList) (hnul : '\x00' ∉ name.toList)
    (hlong : nameLimit ≤ name.utf8ByteSize) (hshort : name.utf8ByteSize < pathLimit) :
    t.leadsTo sort (Path.ofString name) = .error (Refusal.nameTooLong.on name) := by
  have hempty : name ≠ "" := ne_of_long hlong (by decide)
  have hdot : name ≠ "." := ne_of_long hlong (by decide)
  have hpath : Path.ofString name = ⟨.relative, [name]⟩ :=
    Path.ofString_of_isPart hslash (by simp [Path.isPart, hempty, hdot])
  rw [hpath, leadsTo_of_long sort (.inr hhome) (by simpa [hasNul, Path.text_singleton] using hnul)
    (by rwa [Path.text_singleton]) hroot rfl hlong, Path.text_singleton]

end FileTree
end LintRun
