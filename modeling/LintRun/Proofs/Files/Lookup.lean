import Mathlib
import LintRun.Proofs.Files.Path

/-!
# Proofs — Files — Look-ups

What looking up a path depends on.

* `Node.at?`: the entry under names, one after the other, through directories and no links.
* `Node.IsWellFormed`: the names in a directory are distinct, and can be names.
* `Node.Alike`: two trees in which the same stands under the same names, in whatever order
  directories list them.
* `FileTree.walk_append`: what is below a directory is looked up from there.
* `FileTree.move_alike`, `FileTree.walk_alike`: the order in which directories list their entries
  does not matter.
-/

namespace LintRun

/-- What a directory can have as the name of an entry. -/
structure Path.IsEntryName
    (name : String) : Prop extends Path.IsName name, FileTree.IsPlain name where
  noNul : '\x00' ∉ name.toList

instance (name : String) : Decidable (Path.IsEntryName name) :=
  decidable_of_iff (Path.IsName name ∧ FileTree.IsPlain name ∧ '\x00' ∉ name.toList)
    ⟨fun ⟨h, h', h''⟩ => { h, h' with noNul := h'' }, fun h => ⟨h.toIsName, h.toIsPlain, h.noNul⟩⟩

namespace Node

/-- The entry under names, one after the other. Nothing stands below a link. -/
def at? (n : Node) : List String → Option Node
  | [] => some n
  | name :: rest => n.entry? name |>.bind fun child => child.at? rest

/-- Names in a directory are distinct, and can be names. -/
inductive IsWellFormed : Node → Prop where
  | file (content : List UInt8) (executable : Bool) : IsWellFormed (.file content executable)
  | link (target : String) : IsWellFormed (.link target)
  | directory {es : List (String × Node)} (hdistinct : (es.map Prod.fst).Nodup)
      (hname : ∀ e ∈ es, Path.IsEntryName e.1) (hbelow : ∀ e ∈ es, IsWellFormed e.2) :
      IsWellFormed (.directory es)

/-- What a node shows of itself: the content of a file, where a link leads, or that it is a
directory. -/
inductive Face
  | file (content : List UInt8) (executable : Bool)
  | link (target : String)
  | directory
  deriving DecidableEq

def face : Node → Face
  | .file content executable => .file content executable
  | .link target => .link target
  | .directory _ => .directory

/-- In two trees the same stands under the same names. -/
def Alike (n n' : Node) : Prop := ∀ names, (n.at? names).map face = (n'.at? names).map face

def isLink : Node → Bool
  | .link _ => true
  | _ => false

variable {n n' child : Node} {es es' : List (String × Node)} {name : String} {names : List String}

theorem entry?_eq_some_iff :
    n.entry? name = some child ↔ ∃ es, n = .directory es ∧ es.lookup name = some child := by
  cases n <;> simp [entries, entry?]

/-- Where names are distinct, an entry is found under its name. -/
theorem mem_iff_lookup_eq_some (h : (es.map Prod.fst).Nodup) :
    (name, child) ∈ es ↔ es.lookup name = some child := by
  rw [List.lookup_eq_some_iff]
  constructor
  · intro hmem
    obtain ⟨before, after, rfl⟩ := List.append_of_mem hmem
    refine ⟨before, after, rfl, fun e he => ?_⟩
    rw [List.map_append, List.nodup_append] at h
    exact bne_iff_ne.2 (h.2.2 e.1 (List.mem_map_of_mem he) name (by simp)).symm
  · rintro ⟨before, after, rfl, -⟩
    exact List.mem_append_right _ List.mem_cons_self

namespace IsWellFormed

attribute [simp] file link

theorem directory_iff : (Node.directory es).IsWellFormed ↔
    (es.map Prod.fst).Nodup ∧ (∀ e ∈ es, Path.IsEntryName e.1) ∧ ∀ e ∈ es, e.2.IsWellFormed := by
  constructor
  · rintro (_ | _ | ⟨hdistinct, hname, hbelow⟩)
    exact ⟨hdistinct, hname, hbelow⟩
  · rintro ⟨hdistinct, hname, hbelow⟩
    exact .directory hdistinct hname hbelow

theorem mem_iff (h : (Node.directory es).IsWellFormed) :
    (name, child) ∈ es ↔ es.lookup name = some child :=
  mem_iff_lookup_eq_some (directory_iff.1 h).1

/-- What stands in a well-formed directory has a name of its own, and is well-formed. -/
theorem of_entry (h : n.IsWellFormed) (hentry : n.entry? name = some child) :
    Path.IsEntryName name ∧ child.IsWellFormed := by
  obtain ⟨es, rfl, hlookup⟩ := entry?_eq_some_iff.1 hentry
  have hmem := h.mem_iff.2 hlookup
  obtain ⟨-, hname, hbelow⟩ := directory_iff.1 h
  exact ⟨hname _ hmem, hbelow _ hmem⟩

/-- All names on the way to an entry can be names. -/
theorem at? (h : n.IsWellFormed) (hat : n.at? names = some child) :
    (∀ name ∈ names, Path.IsEntryName name) ∧ child.IsWellFormed := by
  induction names generalizing n with
  | nil =>
    obtain rfl : n = child := Option.some.inj hat
    exact ⟨by simp, h⟩
  | cons name rest ih =>
    obtain ⟨mid, hentry, hat⟩ := Option.bind_eq_some_iff.1 hat
    obtain ⟨hname, hmid⟩ := h.of_entry hentry
    obtain ⟨hrest, hchild⟩ := ih hmid hat
    exact ⟨List.forall_mem_cons.2 ⟨hname, hrest⟩, hchild⟩

end IsWellFormed

namespace Alike

theorem refl (n : Node) : n.Alike n := fun _ => rfl

/-- Nodes that are alike show the same of themselves. -/
theorem face_eq (h : n.Alike n') : n.face = n'.face := Option.some.inj (h [])

/-- Under the same name stand nodes that are alike, or nothing in both trees. -/
theorem lookup (h : n.Alike n') (name : String) :
    Option.Rel Alike (n.entries.lookup name) (n'.entries.lookup name) := by
  have hat (names : List String) :
      ((n.entries.lookup name).bind (·.at? names)).map face =
        ((n'.entries.lookup name).bind (·.at? names)).map face :=
    h (name :: names)
  cases hentry : n.entries.lookup name with
  | none =>
    cases hentry' : n'.entries.lookup name with
    | none => exact .none
    | some child' => simpa [Node.at?, hentry, hentry'] using hat []
  | some child =>
    cases hentry' : n'.entries.lookup name with
    | none => simpa [Node.at?, hentry, hentry'] using hat []
    | some child' =>
      refine .some fun names => ?_
      simpa [hentry, hentry'] using hat names

/-- Nothing but the same link is like a link. -/
theorem eq_link {target : String} (h : (Node.link target).Alike n') : n' = .link target := by
  have hface := h.face_eq
  cases n' with
  | link target' =>
    cases hface
    rfl
  | file content executable | directory es => cases hface

theorem isFile_eq (h : n.Alike n') : n.isFile = n'.isFile := by
  have hface := h.face_eq
  cases n <;> cases n' <;> first | rfl | cases hface

theorem isDirectory_eq (h : n.Alike n') : n.isDirectory = n'.isDirectory := by
  have hface := h.face_eq
  cases n <;> cases n' <;> first | rfl | cases hface

/-- Entries may be listed in another order. -/
theorem of_perm (hdistinct : (es.map Prod.fst).Nodup) (h : es.Perm es') :
    (directory es).Alike (directory es') := by
  intro names
  cases names with
  | nil => rfl
  | cons name rest =>
    have hlookup : es.lookup name = es'.lookup name := by
      ext child
      rw [← mem_iff_lookup_eq_some hdistinct, h.mem_iff,
        mem_iff_lookup_eq_some ((h.map _).nodup_iff.1 hdistinct)]
    simp only [Node.at?, Node.entry?, entries, hlookup]

/-- Entries may be replaced by entries that are alike. -/
theorem of_forall₂ (h : List.Forall₂ (fun e e' => e.1 = e'.1 ∧ e.2.Alike e'.2) es es') :
    (directory es).Alike (directory es') := by
  intro names
  cases names with
  | nil => rfl
  | cons name rest =>
    simp only [Node.at?, Node.entry?, entries]
    induction h with
    | nil => rfl
    | @cons e e' _ _ hhead _ ih =>
      obtain ⟨other, child⟩ := e
      obtain ⟨other', child'⟩ := e'
      obtain ⟨rfl, hchild⟩ := hhead
      rw [List.lookup_cons, List.lookup_cons]
      cases name == other with
      | true => exact hchild rest
      | false => exact ih

end Alike

end Node

namespace FileTree

open Node (Alike)

variable {t t' : FileTree} {p : Path} {links left : Nat} {trail trail' mid : Trail} {name : String}
  {names more : List String} {n : Node}

/-! ### One look-up after the other -/

/-- **What is below a directory is looked up from there**, with the links that are left. -/
theorem walk_append (h : walk .target links trail names = .ok (.present trail')) :
    ∃ left, ∀ more, walk .target links trail (names ++ more) = walk .target left trail' more := by
  induction links, trail, names using walk_induction .target with
  | nil links trail =>
    rw [walk] at h
    cases h
    exact ⟨links, fun more => rfl⟩
  | cons links trail name rest ih =>
    obtain ⟨left, mid, names, hmove, hwalk⟩ := exists_move h
    obtain ⟨last, hlast⟩ := ih left mid names hmove hwalk
    refine ⟨last, fun more => ?_⟩
    rw [List.cons_append, walk_cons, move_append hmove, Move.run, hlast]

/-- A name leads to where the link under it leads. -/
theorem walk_link {name target : String} {es : List (String × Node)} {rest : List String}
    {m : String} {above : Trail} (hname : IsPlain name)
    (hentry : es.lookup name = some (.link target)) (hrelative : target.startsWith "/" = false) :
    walk .target (links + 1) ((m, .directory es) :: above) (name :: rest) =
      walk .target links ((m, .directory es) :: above) (Path.pieces target.toList ++ rest) := by
  rw [walk_name hname (by decide), hentry]
  simp [follow, hrelative, Move.run]

section Link

variable {dir name target : String} {es : List (String × Node)}

/-- A link in a directory below the root. -/
structure IsLinkAt (t : FileTree) (p : Path) (dir name target : String)
    (es : List (String × Node)) : Prop where
  start : t.StartsAtRoot p
  short : p.text.utf8ByteSize < pathLimit
  parts : p.parts = [dir, name]
  plain : IsPlain dir ∧ IsPlain name
  entry : t.root.entry? dir = some (.directory es)
  link : es.lookup name = some (.link target)
  relative : target.startsWith "/" = false

/-- Where a link in a directory below the root leads. -/
theorem IsLinkAt.locate (h : t.IsLinkAt p dir name target es) :
    t.locate .target p = walk .target 39 [(dir, .directory es), ("", t.root)]
      (Path.pieces target.toList) := by
  obtain ⟨roots, hroot, hlookup⟩ := Node.entry?_eq_some_iff.1 h.entry
  rw [locate_eq h.start h.short, h.parts, hroot, walk_entry h.plain.1 (by decide) hlookup (by simp),
    linkLimit, walk_link h.plain.2 h.link h.relative, List.append_nil]

/-- What a test says of a link to what stands below its directory. -/
theorem IsLinkAt.leadsTo (h : t.IsLinkAt p dir name target es) (sort : Node → Bool)
    (hnul : hasNul p = false) (hplain : ∀ piece ∈ Path.pieces target.toList, IsPlain piece)
    (hfind : (Node.directory es).find? (Path.pieces target.toList) = some n) :
    t.leadsTo sort p = .ok (sort n) := by
  obtain ⟨m, trail, hwalk⟩ :=
    walk_of_find? 39 dir [("", t.root)] (show Aim.target ≠ .file by decide) hplain hfind
  rw [FileTree.leadsTo, hnul, node?, h.locate, hwalk]
  rfl

/-- A link to a name that is too long is a fault. -/
theorem IsLinkAt.leadsTo_of_long (h : t.IsLinkAt p dir name target es) (sort : Node → Bool)
    (hnul : hasNul p = false) (hslash : '/' ∉ target.toList)
    (hlong : nameLimit ≤ target.utf8ByteSize) :
    t.leadsTo sort p = .error (Refusal.nameTooLong.on p.text) := by
  have hpieces : Path.pieces target.toList = [target] := by
    simp [Path.pieces, Text.splitAt_of_notMem hslash]
  rw [FileTree.leadsTo, hnul, node?, h.locate, hpieces, walk_long hlong (by decide)]
  rfl

end Link

/-! ### The order of a listing -/

/-- The same names lead to nodes that are alike. -/
abbrev AlikeTrails (trail trail' : Trail) : Prop :=
  List.Forall₂ (fun e e' => e.1 = e'.1 ∧ e.2.Alike e'.2) trail trail'

/-- Two look-ups that end in the same way. -/
inductive AlikeEnds : Except Refusal Place → Except Refusal Place → Prop where
  | error (r : Refusal) : AlikeEnds (.error r) (.error r)
  | present {trail trail' : Trail} (h : AlikeTrails trail trail') :
      AlikeEnds (.ok (.present trail)) (.ok (.present trail'))
  | absent {trail trail' : Trail} (h : AlikeTrails trail trail') (name : String) :
      AlikeEnds (.ok (.absent trail name)) (.ok (.absent trail' name))

namespace AlikeTrails

/-- Above nodes that are alike stand nodes that are alike. -/
theorem up (h : AlikeTrails trail trail') :
    AlikeTrails (FileTree.up trail) (FileTree.up trail') := by
  cases h with
  | nil => exact .nil
  | cons hhead hrest =>
    cases hrest with
    | nil => exact .cons hhead .nil
    | cons habove hrest => exact .cons habove hrest

/-- The roots of trails that are alike are alike. -/
theorem top (h : AlikeTrails trail trail') :
    AlikeTrails (FileTree.top trail) (FileTree.top trail') := by
  rw [FileTree.top, FileTree.top, h.length_eq]
  exact List.forall₂_drop _ h

/-- The heads are directories that are alike, or neither of them is one. -/
theorem listing? (h : AlikeTrails trail trail') :
    Option.Rel (fun es es' => (Node.directory es).Alike (.directory es'))
      (FileTree.listing? trail) (FileTree.listing? trail') := by
  cases h with
  | nil => exact .none
  | @cons e e' above above' hhead _ =>
    obtain ⟨name, n⟩ := e
    obtain ⟨name', n'⟩ := e'
    have hface := hhead.2.face_eq
    cases n with
    | directory es =>
      cases n' with
      | directory es' => exact .some hhead.2
      | file content executable | link target => cases hface
    | file content executable | link target =>
      cases n' with
      | directory es' => cases hface
      | file content executable | link target => exact .none

end AlikeTrails

/-- Two moves that end in the same way, or go on from places that are alike, with the same names
left. -/
inductive AlikeMoves : Move → Move → Prop where
  | ends {outcome outcome' : Except Refusal Place} (h : AlikeEnds outcome outcome') :
      AlikeMoves (.ends outcome) (.ends outcome')
  | goesOn {trail trail' : Trail} (links : Nat) (names : List String)
      (h : AlikeTrails trail trail') :
      AlikeMoves (.goesOn links trail names) (.goesOn links trail' names)

/-- What stands under a name leads to the same as what is like it. -/
theorem follow_alike (aim : Aim) (links : Nat) (name : String) (rest : List String)
    {found found' : Option Node} (h : AlikeTrails trail trail')
    (hfound : Option.Rel Node.Alike found found') :
    AlikeMoves (follow aim links trail name rest found)
      (follow aim links trail' name rest found') := by
  cases hfound with
  | none =>
    rw [follow, follow]
    split
    · exact .ends (.absent h name)
    · exact .ends (.error _)
  | @some n n' hnode =>
    cases n with
    | link target =>
      obtain rfl := hnode.eq_link
      simp only [follow]
      split
      · exact .ends (.present (.cons ⟨rfl, .refl _⟩ h))
      · cases links with
        | zero => exact .ends (.error _)
        | succ links =>
          -- the link starts from the root, or from where it stands
          simp only
          split
          · exact .goesOn _ _ h.top
          · exact .goesOn _ _ h
    | file content executable | directory es =>
      have hlink (target : String) : n' ≠ .link target := by
        rintro rfl
        cases hnode.face_eq
      rw [follow_entry hlink]
      exact .goesOn _ _ (.cons ⟨rfl, hnode⟩ h)

/-- **The move at a name is the same on trails that are alike.** -/
theorem move_alike (aim : Aim) (links : Nat) (name : String) (rest : List String)
    (h : AlikeTrails trail trail') :
    AlikeMoves (move aim links trail name rest) (move aim links trail' name rest) := by
  unfold move
  have hlisting := h.listing?
  generalize listing? trail = listed at hlisting
  generalize listing? trail' = listed' at hlisting
  cases hlisting with
  | none => exact .ends (.error _)
  | some halike =>
    simp only
    split_ifs
    · exact .goesOn _ _ h
    · exact .goesOn _ _ h.up
    · exact .ends (.error _)
    · exact .ends (.error _)
    · exact follow_alike _ _ _ _ h (halike.lookup name)

/-- **The order in which directories list their entries does not matter to a look-up.** -/
theorem walk_alike (aim : Aim) (links : Nat) (names : List String) (h : AlikeTrails trail trail') :
    AlikeEnds (walk aim links trail names) (walk aim links trail' names) := by
  induction links, trail, names using walk_induction aim generalizing trail' with
  | nil links trail =>
    rw [walk, walk]
    exact .present h
  | cons links trail name rest ih =>
    have hmove := move_alike aim links name rest h
    rw [walk_cons, walk_cons]
    generalize hgo : move aim links trail name rest = m at hmove
    generalize move aim links trail' name rest = m' at hmove
    cases hmove with
    | ends hends => exact hends
    | goesOn left names hmid => exact ih left _ names hgo hmid

/-- Names lead to nodes that are alike from nodes that are alike. -/
theorem trailFrom_alike (names : List String) (h : AlikeTrails trail trail') :
    AlikeTrails (trailFrom trail names) (trailFrom trail' names) := by
  induction names generalizing trail trail' with
  | nil => exact h
  | cons name rest ih =>
    cases h with
    | nil => exact .nil
    | @cons e e' above above' hhead habove =>
      have hself : AlikeTrails (e :: above) (e' :: above') := .cons hhead habove
      rw [trailFrom, trailFrom]
      simp only [Node.entry?]
      have hentry := hhead.2.lookup name
      generalize e.2.entries.lookup name = child at hentry
      generalize e'.2.entries.lookup name = child' at hentry
      cases hentry with
      | none => exact hself
      | some hchild => exact ih (.cons ⟨rfl, hchild⟩ hself)

/-- Two trees in which the same stands under the same names, with the same working directory. -/
structure Alike (t t' : FileTree) : Prop where
  root : t.root.Alike t'.root
  home : t'.home = t.home

/-- A path leads to the same in trees that are alike. -/
theorem Alike.locate (h : t.Alike t') (aim : Aim) (p : Path) :
    AlikeEnds (t.locate aim p) (t'.locate aim p) := by
  have hroot : AlikeTrails [("", t.root)] [("", t'.root)] := .cons ⟨rfl, h.root⟩ .nil
  rw [FileTree.locate, FileTree.locate]
  split
  · exact .error _
  · refine walk_alike aim linkLimit p.parts ?_
    split
    · exact hroot
    · rw [homeTrail, homeTrail, h.home]
      exact trailFrom_alike _ hroot

/-- What a test says of a path is the same in trees that are alike. -/
theorem Alike.leadsTo (h : t.Alike t') {sort : Node → Bool}
    (hsort : ∀ n n', n.Alike n' → sort n = sort n') (p : Path) :
    t.leadsTo sort p = t'.leadsTo sort p := by
  have hends := h.locate .target p
  rw [FileTree.leadsTo, FileTree.leadsTo, node?, node?]
  generalize t.locate .target p = place at hends
  generalize t'.locate .target p = place' at hends
  cases hends with
  | error r => rfl
  | absent htrails name => rfl
  | present htrails =>
    cases htrails with
    | nil => rfl
    | cons hhead _ => simp only [hsort _ _ hhead.2]

/-- A path leads to nodes that are alike in trees that are alike. -/
theorem Alike.node? (h : t.Alike t') (hnode : t.node? p = .ok n) :
    ∃ n', t'.node? p = .ok n' ∧ n.Alike n' := by
  have hends := h.locate .target p
  rw [FileTree.node?] at hnode
  simp only [FileTree.node?]
  generalize t.locate .target p = place at hends hnode
  generalize t'.locate .target p = place' at hends
  cases hends with
  | error r => cases hnode
  | absent htrails name => cases hnode
  | present htrails =>
    cases htrails with
    | nil => cases hnode
    | cons hhead _ =>
      cases hnode
      exact ⟨_, rfl, hhead.2⟩

/-! ### Well-formed trees -/

/-- The nodes on the way to a node. -/
abbrev WellFormedTrail (trail : Trail) : Prop := ∀ e ∈ trail, e.2.IsWellFormed

theorem WellFormedTrail.up (h : WellFormedTrail trail) : WellFormedTrail (up trail) := by
  intro e he
  unfold FileTree.up at he
  split at he
  · exact h e (List.mem_cons_of_mem _ he)
  · exact h e he

theorem WellFormedTrail.entry {e : String × Node} {name : String} {child : Node}
    (h : WellFormedTrail (e :: trail)) (hentry : Node.entry? e.2 name = some child) :
    WellFormedTrail ((name, child) :: e :: trail) :=
  List.forall_mem_cons.2 ⟨((h e List.mem_cons_self).of_entry hentry).2, h⟩

/-- A look-up goes on among well-formed nodes. -/
theorem move_isWellFormed (h : WellFormedTrail trail)
    (hmove : move .target links trail name names = .goesOn left mid more) :
    WellFormedTrail mid := by
  have htop : WellFormedTrail (top trail) := fun e he => h e (List.mem_of_mem_drop he)
  obtain ⟨-, -, hmid | ⟨es, node, hlisting, hentry, rfl⟩⟩ | ⟨-, hmid, -⟩ := move_cases hmove
  · simp only [List.mem_cons, List.not_mem_nil, or_false] at hmid
    obtain rfl | rfl := hmid
    · exact h
    · exact h.up
  · obtain ⟨n, above, rfl⟩ := listing?_eq_some_iff.1 hlisting
    exact h.entry hentry
  · simp only [List.mem_cons, List.not_mem_nil, or_false] at hmid
    obtain rfl | rfl := hmid
    · exact h
    · exact htop

/-- What a look-up comes to in a well-formed tree is well-formed. -/
theorem walk_isWellFormed (h : WellFormedTrail trail)
    (hwalk : walk .target links trail names = .ok (.present trail')) : WellFormedTrail trail' := by
  induction links, trail, names using walk_induction .target with
  | nil links trail =>
    rw [walk] at hwalk
    cases hwalk
    exact h
  | cons links trail name rest ih =>
    obtain ⟨left, mid, names, hmove, hwalk⟩ := exists_move hwalk
    exact ih left mid names hmove (move_isWellFormed h hmove) hwalk

theorem trailFrom_isWellFormed (names : List String) (h : WellFormedTrail trail) :
    WellFormedTrail (trailFrom trail names) := by
  induction names generalizing trail with
  | nil => exact h
  | cons name rest ih =>
    cases trail with
    | nil => exact h
    | cons e above =>
      rw [trailFrom]
      cases hentry : Node.entry? e.2 name with
      | none => exact h
      | some child => exact ih (h.entry hentry)

/-- The trail on which a path is looked up. -/
def startOf (t : FileTree) (p : Path) : Trail :=
  if p.isAbsolute then [("", t.root)] else t.homeTrail

/-- A path leads to a node when it is short enough, and its parts lead there. -/
theorem node?_eq_ok_iff : t.node? p = .ok n ↔ p.text.utf8ByteSize < pathLimit ∧
    ∃ name above, walk .target linkLimit (t.startOf p) p.parts =
      .ok (.present ((name, n) :: above)) := by
  by_cases hlong : pathLimit ≤ p.text.utf8ByteSize
  · simp [node?, locate, hlong]
  · have hlocate : t.locate .target p = walk .target linkLimit (t.startOf p) p.parts := if_neg hlong
    rw [node?, hlocate]
    split <;> simp_all

theorem startOf_isWellFormed (h : t.root.IsWellFormed) (p : Path) :
    WellFormedTrail (t.startOf p) := by
  have hroot : WellFormedTrail [("", t.root)] := by simpa using h
  unfold startOf
  split
  · exact hroot
  · exact trailFrom_isWellFormed _ hroot

/-- What a path of a well-formed tree leads to is well-formed. -/
theorem isWellFormed_of_node? (h : t.root.IsWellFormed) (hnode : t.node? p = .ok n) :
    n.IsWellFormed := by
  obtain ⟨-, name, above, hwalk⟩ := node?_eq_ok_iff.1 hnode
  exact walk_isWellFormed (startOf_isWellFormed h p) hwalk (name, n) List.mem_cons_self

/-! ### Below a directory -/

/-- What stands under names is found under them, unless it is a link. -/
theorem find?_of_at? {entry : Node} (hat : n.at? names = some entry)
    (hlink : entry.isLink = false) :
    n.find? names = some entry := by
  induction names generalizing n with
  | nil => exact hat
  | cons name rest ih =>
    obtain ⟨mid, hentry, hrest⟩ := Option.bind_eq_some_iff.1 hat
    have hmid : mid.isLink = false := by
      cases mid with
      | link target =>
        cases rest with
        | nil =>
          obtain rfl : Node.link target = entry := Option.some.inj hrest
          exact hlink
        | cons name rest => cases hrest
      | file content executable | directory es => rfl
    rw [Node.find?, hentry]
    cases mid with
    | link target => cases hmid
    | file content executable | directory es => exact ih hrest

/-- **A path below a directory leads to the entry that stands there**, unless it is too long or the
entry is a link. -/
theorem node?_below {d : Path} {entry : Node} (hnode : t.node? d = .ok n) (hwf : n.IsWellFormed)
    (hat : n.at? names = some entry) (hlink : entry.isLink = false)
    (hshort : ({ d with parts := d.parts ++ names } : Path).text.utf8ByteSize < pathLimit) :
    t.node? { d with parts := d.parts ++ names } = .ok entry := by
  obtain ⟨-, name, above, hwalk⟩ := node?_eq_ok_iff.1 hnode
  obtain ⟨left, hleft⟩ := walk_append hwalk
  have hplain : ∀ name ∈ names, IsPlain name :=
    fun name hname => ((hwf.at? hat).1 name hname).toIsPlain
  obtain ⟨m, trail, hentry⟩ :=
    walk_of_find? left name above (show Aim.target ≠ .file by decide)
      hplain (find?_of_at? hat hlink)
  exact node?_eq_ok_iff.2 ⟨hshort, m, trail, (hleft names).trans hentry⟩

end FileTree
end LintRun
