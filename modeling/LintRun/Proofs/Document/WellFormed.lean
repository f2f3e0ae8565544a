import Mathlib
import LintRun.Document.Reader
import LintRun.Proofs.Failure.Outcome
import LintRun.Proofs.Files.Path
import LintRun.Proofs.Value.Keys

/-!
# Proofs — Document — Values that are read

Not every tree of scalars, lists and mappings is a value that a file or a caller can give. Every
document that is read is one, and holds no path.

* `Value.IsWellFormed`: no text is a key twice, only some paths are there, and what is held as code
  points is no text of characters.
* `Value.IsDocument`: the same without any path.
* `Value.isWellFormed_ofCodes`: the value of a text.
* `Value.IsWellFormed.opened`: writing out a level of a value that holds itself.
* `Json.isDocument_read`, `Yaml.isDocument_read`: documents of the two formats.
* `Document.isDocument_read`: documents of every format.
-/

namespace LintRun

/-! ### Values -/

namespace Value

variable {k v : Value} {label : Nat} {allowed : Path → Prop}

/-- A value that a file or a caller can give; its paths are among the allowed ones. -/
inductive IsWellFormed (allowed : Path → Prop) : Value → Prop
  | null : IsWellFormed allowed .null
  | bool (b : Bool) : IsWellFormed allowed (.bool b)
  | int (i : Int) : IsWellFormed allowed (.int i)
  | float (x : Binary64) : IsWellFormed allowed (.float x)
  | str (s : String) : IsWellFormed allowed (.str s)
  | codes {units : Text.Codes} (h : Text.charsOf? units = none) :
      IsWellFormed allowed (.codes units)
  | path {p : Path} (h : allowed p) : IsWellFormed allowed (.path p)
  | date (d : Date) : IsWellFormed allowed (.date d)
  | moment (t : Moment) : IsWellFormed allowed (.moment t)
  | bytes (bs : List UInt8) : IsWellFormed allowed (.bytes bs)
  | list {items : List Value} (h : ∀ v ∈ items, IsWellFormed allowed v) :
      IsWellFormed allowed (.list items)
  | tuple {items : List Value} (h : ∀ v ∈ items, IsWellFormed allowed v) :
      IsWellFormed allowed (.tuple items)
  | set (items : List Value) : IsWellFormed allowed (.set items)
  | map {entries : List (Value × Value)} (hkeys : OnceKeyed entries)
      (h : ∀ e ∈ entries, IsWellFormed allowed e.2) :
    IsWellFormed allowed (.map entries)
  | labelled {label : Nat} {body : Value} (h : IsWellFormed allowed body) :
      IsWellFormed allowed (.labelled label body)
  | reference (label : Nat) : IsWellFormed allowed (.reference label)

/-- A value that a document can give: no path is in it. -/
abbrev IsDocument (v : Value) : Prop := v.IsWellFormed fun _ => False

/-- What is well-formed stays so if more paths are allowed. -/
theorem IsWellFormed.mono {more : Path → Prop} (h : v.IsWellFormed allowed)
    (hmore : ∀ p, allowed p → more p) :
    v.IsWellFormed more := by
  induction h with
  | codes h => exact .codes h
  | path h => exact .path (hmore _ h)
  | list _ ih => exact .list ih
  | tuple _ ih => exact .tuple ih
  | map hkeys _ ih => exact .map hkeys ih
  | labelled _ ih => exact .labelled ih
  | _ => constructor

/-- What a document can give, a caller can give. -/
theorem IsDocument.isWellFormed (h : v.IsDocument) : v.IsWellFormed allowed :=
  h.mono fun _ => False.elim

/-- The value of a text is well-formed: it is held as code points only if they are not all
characters. -/
theorem isWellFormed_ofCodes (units : Text.Codes) : (ofCodes units).IsWellFormed allowed := by
  rw [ofCodes]
  cases RawText.ofCodes units with
  | plain s => exact .str s
  | codes _ h => exact .codes h

theorem substituteItems_eq (label : Nat) (whole : Value) (items : List Value) :
    substituteItems label whole items = items.map (substitute label whole) := by
  induction items with
  | nil => rfl
  | cons v rest ih => rw [substituteItems, ih, List.map_cons]

theorem substituteEntries_eq (label : Nat) (whole : Value) (entries : List (Value × Value)) :
    substituteEntries label whole entries =
      entries.map fun e => (substitute label whole e.1, substitute label whole e.2) := by
  induction entries with
  | nil => rfl
  | cons e rest ih => rw [substituteEntries, ih, List.map_cons]

/-- No text comes from a reference to a value that holds itself. -/
theorem substitute_eq_str_iff {body : Value} {s : String} :
    substitute label (.labelled label body) k = .str s ↔ k = .str s := by
  cases k <;> simp only [substitute] <;> (try split) <;> simp

/-- A well-formed value stays so with another one in the place of its references to a label. -/
theorem IsWellFormed.substitute {body : Value} (hbody : body.IsWellFormed allowed)
    (h : v.IsWellFormed allowed) :
    (Value.substitute label (.labelled label body) v).IsWellFormed allowed := by
  induction h with
  | list _ ih =>
    rw [Value.substitute, substituteItems_eq]
    exact .list (List.forall_mem_map.2 ih)
  | tuple _ ih =>
    rw [Value.substitute, substituteItems_eq]
    exact .tuple (List.forall_mem_map.2 ih)
  | set items =>
    rw [Value.substitute]
    exact .set _
  | @map entries hkeys _ ih =>
    -- keys are written out as well, but a text is a key after that only if it was one before
    rw [Value.substitute, substituteEntries_eq]
    refine .map ?_ (List.forall_mem_map.2 ih)
    rw [OnceKeyed, List.map_map, List.pairwise_map]
    rw [OnceKeyed, List.pairwise_map] at hkeys
    refine hkeys.imp fun {e e'} h s hs => ?_
    rw [Function.comp_apply, substitute_eq_str_iff] at hs
    rw [Function.comp_apply, Ne, substitute_eq_str_iff]
    exact h s hs
  | @labelled l inner hinner ih =>
    rw [Value.substitute]
    split
    · exact .labelled hinner
    · exact .labelled ih
  | reference l =>
    rw [Value.substitute]
    split
    · exact .labelled hbody
    · exact .reference l
  | codes h => exact .codes h
  | path h => exact .path h
  | _ =>
    simp only [Value.substitute]
    constructor

/-- **Writing out a level of a value that holds itself leaves it such.** -/
theorem IsWellFormed.opened (h : v.IsWellFormed allowed) : v.opened.IsWellFormed allowed := by
  cases h with
  | labelled h => exact h.substitute h
  | list h => exact .list h
  | tuple h => exact .tuple h
  | map hkeys h => exact .map hkeys h
  | codes h => exact .codes h
  | path h => exact .path h
  | _ => constructor

/-- The items of a well-formed list are well-formed. -/
theorem IsWellFormed.items {items : List Value} (h : v.IsWellFormed allowed)
    (hitems : v.opened = .list items ∨ v.opened = .tuple items) :
    ∀ item ∈ items, item.IsWellFormed allowed := by
  have hopened := h.opened
  rcases hitems with hitems | hitems
  all_goals
    rw [hitems] at hopened
    cases hopened
    assumption

/-- A well-formed mapping has no text as a key twice, and its values are well-formed. -/
theorem IsWellFormed.entries {entries : List (Value × Value)} (h : v.IsWellFormed allowed)
    (hmap : v.opened = .map entries) :
    OnceKeyed entries ∧ ∀ e ∈ entries, e.2.IsWellFormed allowed := by
  have hopened := h.opened
  rw [hmap] at hopened
  cases hopened with
  | map hkeys hall => exact ⟨hkeys, hall⟩

end Value

open Value

/-! ### JSON -/

namespace Json

/-- A number is an integer or a float. -/
theorem isDocument_readNumber {text rest : List Char} {v : Value}
    (h : readNumber text = .ok (v, rest)) :
    v.IsDocument := by
  unfold readNumber at h
  dsimp only at h
  split at h
  · cases h
  · split at h
    · obtain ⟨v', hv', heq⟩ := Outcome.map_eq_ok_iff.1 h
      obtain ⟨rfl, -⟩ := Prod.mk.inj heq
      unfold integer at hv'
      split at hv'
      · cases hv'
      · rw [← Except.ok.inj hv']
        exact .int _
    · obtain ⟨rfl, -⟩ := Prod.mk.inj (Except.ok.inj h)
      exact .float _

/-- A word is one of six scalars. -/
theorem isDocument_readWord {text rest : List Char} {v : Value}
    (h : readWord? text = some (v, rest)) :
    v.IsDocument := by
  obtain ⟨⟨w, v'⟩, hfound, heq⟩ := Option.map_eq_some_iff.1 h
  obtain ⟨rfl, -⟩ := Prod.mk.inj heq
  have hmem := List.mem_of_find?_eq_some hfound
  simp only [words, List.mem_cons, Prod.mk.injEq, List.not_mem_nil, or_false] at hmem
  rcases hmem with ⟨-, rfl⟩ | ⟨-, rfl⟩ | ⟨-, rfl⟩ | ⟨-, rfl⟩ | ⟨-, rfl⟩ | ⟨-, rfl⟩ <;> constructor

/-- What is read with so much fuel can be given by a document. -/
structure ReadsWellFormed (fuel : Nat) : Prop where
  value : ∀ {text rest v}, readValue fuel text = .ok (v, rest) → v.IsDocument
  items : ∀ {text rest items}, readItems fuel text = .ok (items, rest) → ∀ v ∈ items, v.IsDocument
  members : ∀ {text rest members}, readMembers fuel text = .ok (members, rest) →
    ∀ m ∈ members, m.2.IsDocument

/-- The mapping of some members has none of their keys twice. -/
theorem isDocument_map_entriesOf {members : List (Value × Value)}
    (h : ∀ m ∈ members, m.2.IsDocument) :
    (Value.map (entriesOf members)).IsDocument := by
  refine .map (onceKeyed_entriesOf members) fun e he => ?_
  obtain ⟨m, hm, heq⟩ := mem_entriesOf he
  exact heq ▸ h m hm

namespace ReadsWellFormed

variable {fuel : Nat} {text rest : List Char}

/-- A value is a text, a list of what the items are, a mapping of what the members are, a word or a
number. -/
theorem value_succ (ih : ReadsWellFormed fuel) {v : Value}
    (h : readValue (fuel + 1) text = .ok (v, rest)) :
    v.IsDocument := by
  unfold readValue at h
  split at h
  · obtain ⟨⟨cs, r⟩, -, heq⟩ := Outcome.map_eq_ok_iff.1 h
    obtain ⟨rfl, -⟩ := Prod.mk.inj heq
    exact isWellFormed_ofCodes cs
  · split at h
    · obtain ⟨rfl, -⟩ := Prod.mk.inj (Except.ok.inj h)
      exact .list (by simp)
    · obtain ⟨⟨items, r⟩, hitems, heq⟩ := Outcome.map_eq_ok_iff.1 h
      obtain ⟨rfl, -⟩ := Prod.mk.inj heq
      exact .list (ih.items hitems)
  · split at h
    · obtain ⟨rfl, -⟩ := Prod.mk.inj (Except.ok.inj h)
      exact .map onceKeyed_nil (by simp)
    · obtain ⟨⟨members, r⟩, hmembers, heq⟩ := Outcome.map_eq_ok_iff.1 h
      obtain ⟨rfl, -⟩ := Prod.mk.inj heq
      exact isDocument_map_entriesOf (ih.members hmembers)
  · split at h
    · rename_i found hword
      obtain rfl : found = (v, rest) := Except.ok.inj h
      exact isDocument_readWord hword
    · exact isDocument_readNumber h

/-- The items of a list are one value and those of what follows. -/
theorem items_succ (ih : ReadsWellFormed fuel) {items : List Value}
    (h : readItems (fuel + 1) text = .ok (items, rest)) : ∀ v ∈ items, v.IsDocument := by
  unfold readItems at h
  obtain ⟨⟨item, r⟩, hitem, h⟩ := Outcome.bind_eq_ok_iff.1 h
  dsimp only at h
  split at h
  · obtain ⟨rfl, -⟩ := Prod.mk.inj (Except.ok.inj h)
    exact List.forall_mem_singleton.2 (ih.value hitem)
  · obtain ⟨⟨items', r'⟩, hitems, h⟩ := Outcome.bind_eq_ok_iff.1 h
    obtain ⟨rfl, -⟩ := Prod.mk.inj (Except.ok.inj h)
    exact List.forall_mem_cons.2 ⟨ih.value hitem, ih.items hitems⟩
  · cases h

/-- The members of a mapping are one key with its value and those of what follows. -/
theorem members_succ (ih : ReadsWellFormed fuel) {members : List (Value × Value)}
    (h : readMembers (fuel + 1) text = .ok (members, rest)) : ∀ m ∈ members, m.2.IsDocument := by
  unfold readMembers at h
  split at h
  · obtain ⟨⟨key, r⟩, -, h⟩ := Outcome.bind_eq_ok_iff.1 h
    dsimp only at h
    split at h
    · obtain ⟨⟨value, r'⟩, hvalue, h⟩ := Outcome.bind_eq_ok_iff.1 h
      dsimp only at h
      split at h
      · obtain ⟨rfl, -⟩ := Prod.mk.inj (Except.ok.inj h)
        exact List.forall_mem_singleton.2 (ih.value hvalue)
      · obtain ⟨⟨members', r''⟩, hmembers, h⟩ := Outcome.bind_eq_ok_iff.1 h
        obtain ⟨rfl, -⟩ := Prod.mk.inj (Except.ok.inj h)
        exact List.forall_mem_cons.2 ⟨ih.value hvalue, ih.members hmembers⟩
      · cases h
    · cases h
  · cases h

end ReadsWellFormed

/-- With whatever fuel, what is read can be given by a document. -/
theorem readsWellFormed (fuel : Nat) : ReadsWellFormed fuel := by
  induction fuel with
  | zero => exact ⟨fun h => (by cases h), fun h => (by cases h), fun h => (by cases h)⟩
  | succ fuel ih => exact ⟨ih.value_succ, ih.items_succ, ih.members_succ⟩

/-- **A JSON document is a well-formed value without paths.** -/
theorem isDocument_read {text : List Char} {v : Value} (h : read text = .ok v) : v.IsDocument := by
  unfold read at h
  split at h
  · rename_i value hall
    obtain rfl : value = v := Except.ok.inj h
    unfold readAll at hall
    dsimp only at hall
    split at hall
    · cases hall
    · obtain ⟨⟨found, r⟩, hfound, hall⟩ := Outcome.bind_eq_ok_iff.1 hall
      dsimp only at hall
      split at hall
      · rw [← Except.ok.inj hall]
        exact (readsWellFormed _).value hfound
      · cases hall
  · cases h
  · cases h

end Json

/-! ### YAML -/

namespace Yaml

/-! Scalars. -/

section Scalar

variable {node : Nat} {text : Text.Codes} {v : Value}

theorem isDocument_boolOf (h : boolOf text = .ok v) : v.IsDocument := by
  unfold boolOf at h
  dsimp only at h
  split at h
  · rw [← Except.ok.inj h]
    exact .bool _
  · split at h
    · rw [← Except.ok.inj h]
      exact .bool _
    · cases h

theorem isDocument_intOf (h : intOf text = .ok v) : v.IsDocument := by
  obtain ⟨⟨negative, body⟩, -, h⟩ := Outcome.bind_eq_ok_iff.1 h
  obtain ⟨n, -, h⟩ := Outcome.bind_eq_ok_iff.1 h
  rw [← Except.ok.inj h]
  exact .int _

theorem isDocument_floatOf (h : floatOf node text = .ok v) : v.IsDocument := by
  obtain ⟨⟨negative, body⟩, -, h⟩ := Outcome.bind_eq_ok_iff.1 h
  dsimp only at h
  split at h
  · rw [← Except.ok.inj h]
    exact .float _
  · split at h
    · rw [← Except.ok.inj h]
      exact .float _
    · split at h
      · obtain ⟨parts, -, h⟩ := Outcome.bind_eq_ok_iff.1 h
        obtain ⟨sum, -, h⟩ := Outcome.bind_eq_ok_iff.1 h
        rw [← Except.ok.inj h]
        exact .float _
      · obtain ⟨x, -, h⟩ := Outcome.bind_eq_ok_iff.1 h
        rw [← Except.ok.inj h]
        exact .float _

/-- A day or moment that the calendar has is taken as it is. -/
theorem isDocument_calendar {fault? : Option CalendarFault} {w : Value} (hw : w.IsDocument)
    (h : calendar fault? w = .ok v) : v.IsDocument := by
  unfold calendar at h
  split at h
  · cases h
  · exact Except.ok.inj h ▸ hw

/-- A text that is taken as a time is a day or a moment. -/
theorem isDocument_timestampOf (h : timestampOf text = .ok v) : v.IsDocument := by
  unfold timestampOf at h
  split at h
  · cases h
  · split at h
    · exact isDocument_calendar (.date _) h
    · exact isDocument_calendar (.moment _) h

/-- **A scalar of any tag can be given by a document.** -/
theorem isDocument_scalarOf {tag : Tag} (h : scalarOf node tag text = .ok v) : v.IsDocument := by
  unfold scalarOf at h
  split at h
  · rw [← Except.ok.inj h]
    exact .null
  · exact isDocument_boolOf h
  · exact isDocument_intOf h
  · exact isDocument_floatOf h
  · split at h
    · rw [← Except.ok.inj h]
      exact .bytes _
    · cases h
  · exact isDocument_timestampOf h
  · rw [← Except.ok.inj h]
    exact isWellFormed_ofCodes text
  · cases h

end Scalar

/-- A piece of what a document can give. -/
def Piece.IsDocument : Piece → Prop
  | .scalar v => v.IsDocument
  | .map entries => OnceKeyed entries
  | _ => True

namespace Construction

variable {σ α β : Type} {i : NodeId}

/-- Pieces of well-formed values. -/
def AreWellFormed (pieces : Array (Option Piece)) : Prop :=
  ∀ (i : NodeId) (p : Piece), pieces[i]?.join = some p → p.IsDocument

/-- From such pieces a step makes such pieces, and its results are as they are said to be. -/
def Gives (x : Step α) (Q : α → Prop) : Prop :=
  ∀ s, AreWellFormed s.pieces → ∀ a s', x.run s = .ok (a, s') → Q a ∧ AreWellFormed s'.pieces

namespace Gives

variable {Q : α → Prop} {R : β → Prop} {x : Step α} {f : α → Step β}

/-- A step after another one. -/
theorem bind (hx : Gives x Q) (hf : ∀ a, Q a → Gives (f a) R) : Gives (x >>= f) R := by
  intro s hs b s' h
  obtain ⟨⟨a, s₁⟩, ha, hb⟩ := Outcome.bind_eq_ok_iff.1 h
  obtain ⟨hQ, hs₁⟩ := hx s hs a s₁ ha
  exact hf a hQ s₁ hs₁ b s' hb

theorem pure {a : α} (h : Q a) : Gives (pure a : Step α) Q := by
  intro s hs b s' hb
  obtain ⟨rfl, rfl⟩ := Prod.mk.inj (Except.ok.inj hb)
  exact ⟨h, hs⟩

theorem refuse : Gives (Construction.refuse : Step α) Q := fun _ _ _ _ h => (by cases h)

theorem get : Gives (get : Step State) fun s => AreWellFormed s.pieces := by
  intro s hs b s' hb
  obtain ⟨rfl, rfl⟩ := Prod.mk.inj (Except.ok.inj hb)
  exact ⟨hs, hs⟩

theorem modify {g : State → State} (h : ∀ s, AreWellFormed s.pieces → AreWellFormed (g s).pieces) :
    Gives (modify g : Step Unit) fun _ => True := by
  intro s hs b s' hb
  obtain ⟨-, rfl⟩ := Prod.mk.inj (Except.ok.inj hb)
  exact ⟨trivial, h s hs⟩

theorem set {s : State} (h : AreWellFormed s.pieces) :
    Gives (MonadStateOf.set s : Step PUnit) fun _ => True :=
  modify fun _ _ => h

theorem lift {e : Except Fault α} (h : ∀ a, e = .ok a → Q a) : Gives (liftM e : Step α) Q := by
  intro s hs b s' hb
  obtain ⟨a, ha, heq⟩ := Outcome.bind_eq_ok_iff.1 hb
  obtain ⟨rfl, rfl⟩ := Prod.mk.inj (Except.ok.inj heq)
  exact ⟨h a ha, hs⟩

/-- A step for each item of a list. -/
theorem forM {xs : List α} {f : α → Step PUnit} (h : ∀ a, Gives (f a) fun _ => True) :
    Gives (xs.forM f) fun _ => True := by
  induction xs with
  | nil => exact pure trivial
  | cons a rest ih =>
    exact bind (h a) fun _ _ => ih

/-- Results for each item of a list; nothing is said of them. -/
theorem mapM {xs : List α} {f : α → Step β} (h : ∀ a, Gives (f a) R) :
    Gives (xs.mapM f) fun _ => True := by
  induction xs with
  | nil => exact pure trivial
  | cons a rest ih =>
    rw [List.mapM_cons]
    exact bind (h a) fun _ _ => bind ih fun _ _ => pure trivial

end Gives

/-- A piece that is put in its place. -/
theorem gives_setPiece {p : Piece} (h : p.IsDocument) : Gives (setPiece i p) fun _ => True := by
  refine Gives.modify fun s hs j q hq => ?_
  rw [Array.getElem?_setIfInBounds] at hq
  split at hq
  · split at hq
    · obtain rfl : p = q := by simpa using hq
      exact h
    · cases hq
  · exact hs j q hq

/-- The piece of a node, if it is known. -/
theorem gives_piece? : Gives (piece? i) fun p => ∀ q, p = some q → q.IsDocument :=
  Gives.get.bind fun _ hs => .pure (hs i)

/-- The piece that a collection starts from. -/
theorem isDocument_emptyPiece {tag : Tag} {p : Piece} (h : emptyPiece? tag = some p) :
    p.IsDocument := by
  unfold emptyPiece? at h
  split at h <;> cases h
  · exact trivial
  · exact trivial
  · exact trivial
  · exact trivial
  · exact onceKeyed_nil

/-- Entering a node makes the piece of a scalar, or the empty piece of a collection. -/
theorem gives_enter : Gives (enter i) fun _ => True := by
  unfold enter
  refine gives_piece?.bind fun found _ => ?_
  split
  · exact .pure trivial
  · refine Gives.get.bind fun s hs => ?_
    dsimp only
    split
    · split
      · exact (Gives.lift fun v hv => isDocument_scalarOf hv).bind fun v hv => gives_setPiece hv
      · exact .refuse
    · split
      · rename_i p hp
        exact (gives_setPiece (isDocument_emptyPiece hp)).bind fun _ _ => .modify fun s hs => hs
      · exact .refuse

theorem gives_key : Gives (key i) fun _ => True := by
  refine gives_enter.bind fun _ _ => gives_piece?.bind fun found _ => ?_
  split
  · exact .pure trivial
  · exact .refuse

/-- **The members of a mapping have no text as a key twice.** -/
theorem gives_membersOf : Gives (membersOf i) OnceKeyed := by
  unfold membersOf
  refine Gives.get.bind fun s hs => ?_
  dsimp only
  split
  · refine (Gives.lift fun g _ => trivial).bind fun g (_ : True) => ?_
    have hs' : AreWellFormed ({ s with graph := g } : State).pieces := hs
    refine (Gives.set hs').bind fun _ _ => ?_
    refine Gives.bind (Gives.mapM (R := fun _ => True) fun e => ?_)
      fun members _ => .pure (onceKeyed_entriesOf members)
    exact gives_key.bind fun _ _ => gives_enter.bind fun _ _ => .pure trivial
  · exact .refuse

theorem gives_pairOf : Gives (pairOf i) fun _ => True := by
  unfold pairOf
  refine Gives.get.bind fun s _ => ?_
  split
  · exact gives_enter.bind fun _ _ => gives_enter.bind fun _ _ => .pure trivial
  · exact .refuse

/-- Filling the collection of a node makes its piece. -/
theorem gives_fill : Gives (fill i) fun _ => True := by
  unfold fill
  refine Gives.get.bind fun s _ => ?_
  dsimp only
  split
  · exact (Gives.forM fun _ => gives_enter).bind fun _ _ => gives_setPiece trivial
  · exact (Gives.mapM fun _ => gives_pairOf).bind fun _ _ => gives_setPiece trivial
  · exact (Gives.mapM fun _ => gives_pairOf).bind fun _ _ => gives_setPiece trivial
  · exact gives_membersOf.bind fun _ h => gives_setPiece h
  · exact gives_membersOf.bind fun _ _ => gives_setPiece trivial
  · exact .refuse

/-- So does filling collections as long as there are some to be filled. -/
theorem gives_rounds (fuel : Nat) : Gives (rounds fuel) fun _ => True := by
  induction fuel with
  | zero => exact .pure trivial
  | succ fuel ih =>
    unfold rounds
    refine Gives.get.bind fun s hs => ?_
    split
    · exact .pure trivial
    · have hs' : AreWellFormed ({ s with waiting := [] } : State).pieces := hs
      exact (Gives.set hs').bind fun _ _ => (Gives.forM fun _ => gives_fill).bind fun _ _ => ih

/-- **The pieces of a graph are those of a document.** -/
theorem areWellFormed_run {g : Graph} {root : NodeId} {pieces : Array (Option Piece)}
    (h : run g root = .ok pieces) :
    AreWellFormed pieces := by
  obtain ⟨⟨_, s⟩, hsteps, heq⟩ := Outcome.bind_eq_ok_iff.1 h
  rw [← Except.ok.inj heq]
  have hstart : AreWellFormed (Array.replicate g.nodes.size none) := by
    intro i p hp
    rw [Array.getElem?_replicate] at hp
    split at hp <;> cases hp
  exact ((gives_enter.bind fun _ _ => gives_rounds _) _ hstart _ _ hsteps).2

/-! ### Values from pieces -/

/-- The values that are known are well-formed. -/
def KnownWellFormed (known : Known) : Prop :=
  ∀ (i : NodeId) (v : Value), known[i]?.join = some v → v.IsDocument

/-- From such values a step makes such values, and its result is as it is said to be. -/
def Reads (x : StateM Known α) (Q : α → Prop) : Prop :=
  ∀ known, KnownWellFormed known → Q (x.run known).1 ∧ KnownWellFormed (x.run known).2

namespace Reads

variable {Q : α → Prop} {R : β → Prop} {x : StateM Known α} {f : α → StateM Known β}

theorem bind (hx : Reads x Q) (hf : ∀ a, Q a → Reads (f a) R) : Reads (x >>= f) R := by
  intro known hknown
  obtain ⟨hQ, hknown'⟩ := hx known hknown
  exact hf _ hQ _ hknown'

theorem pure {a : α} (h : Q a) : Reads (pure a) Q := fun _ hknown => ⟨h, hknown⟩

theorem get : Reads get KnownWellFormed := fun _ hknown => ⟨hknown, hknown⟩

end Reads

/-- A value that is noted for a node. -/
theorem reads_known {v : Value} (h : v.IsDocument) :
    Reads (modify fun known : Known => known.setIfInBounds i (some v)) fun _ => True := by
  refine fun known hknown => ⟨trivial, fun j w hw => ?_⟩
  change (known.setIfInBounds i (some v))[j]?.join = some w at hw
  rw [Array.getElem?_setIfInBounds] at hw
  split at hw
  · split at hw
    · obtain rfl : v = w := by simpa using hw
      exact h
    · cases hw
  · exact hknown j w hw

/-- The parts of some nodes. -/
theorem reads_parts {read : NodeId → StateM Known Part}
    (h : ∀ i, Reads (read i) fun p => p.value.IsDocument) (items : List NodeId) :
    Reads (parts read items) fun p => ∀ v ∈ p.1, v.IsDocument := by
  induction items with
  | nil => exact .pure (by simp)
  | cons i rest ih =>
    exact (h i).bind fun p hp => ih.bind fun _ hrest => .pure (List.forall_mem_cons.2 ⟨hp, hrest⟩)

/-- Keys of which none is a text twice, each with a value. -/
theorem isDocument_zip {entries : List (Value × NodeId)} {values : List Value}
    (hentries : OnceKeyed entries) (hvalues : ∀ v ∈ values, v.IsDocument) :
    (Value.map ((entries.map Prod.fst).zip values)).IsDocument := by
  refine .map ?_ fun e he => hvalues _ (List.of_mem_zip he).2
  have hkeys (keys : List Value) : (keys.zip values).map Prod.fst <+: keys := by
    rw [List.zip_eq_zip_take_min, List.map_fst_zip (by simp)]
    exact List.take_prefix _ _
  exact hentries.sublist (hkeys _).sublist

/-- Pairs of keys and values. -/
theorem isDocument_zipWith {keys values : List Value} (hkeys : ∀ k ∈ keys, k.IsDocument)
    (hvalues : ∀ v ∈ values, v.IsDocument) :
    ∀ w ∈ keys.zipWith (fun k v => Value.tuple [k, v]) values, Value.IsDocument w := by
  intro w hw
  rw [← List.map_uncurry_zip_eq_zipWith] at hw
  obtain ⟨⟨k, v⟩, hmem, rfl⟩ := List.mem_map.1 hw
  have hk := hkeys k (List.of_mem_zip hmem).1
  have hv := hvalues v (List.of_mem_zip hmem).2
  exact .tuple (by simpa using ⟨hk, hv⟩)

/-- What has been made of a node is well-formed with its label, too, and is known from then on if
nothing in it waits for another node. -/
theorem reads_labelled {v : Value} (h : v.IsDocument) (i : NodeId) (free : List NodeId) :
    Reads (do
      let value := if free.contains i then .labelled i v else v
      let free := free.filter (· ≠ i)
      if free.isEmpty then modify fun known => known.setIfInBounds i (some value)
      pure ({ value, free } : Part)) fun p => p.value.IsDocument := by
  have hlabelled : (if free.contains i then .labelled i v else v).IsDocument := by
    split
    · exact .labelled h
    · exact h
  dsimp only
  split
  · exact (reads_known hlabelled).bind fun _ _ => .pure hlabelled
  · exact .pure hlabelled

/-- **The part of a node is well-formed**, however deep it is looked into. -/
theorem reads_part {pieces : Array (Option Piece)} (h : AreWellFormed pieces) (fuel : Nat)
    (outer : List NodeId) (i : NodeId) :
    Reads (part pieces fuel outer i) fun p => p.value.IsDocument := by
  induction fuel generalizing outer i with
  | zero => exact .pure .null
  | succ fuel ih =>
    unfold part
    refine Reads.get.bind fun known hknown => ?_
    dsimp only
    split
    · exact .pure (hknown i _ ‹_›)
    · split
      · exact .pure (.reference i)
      · split
        · exact Reads.bind (.pure .null) fun _ hv => reads_labelled hv _ _
        · exact Reads.bind (.pure (h i _ ‹_›)) fun _ hv => reads_labelled hv _ _
        · exact Reads.bind (.pure (.set _)) fun _ hv => reads_labelled hv _ _
        · refine (reads_parts (ih _) _).bind fun p hp => ?_
          exact Reads.bind (.pure (.list hp)) fun _ hv => reads_labelled hv _ _
        · refine (reads_parts (ih _) _).bind fun p hp => (reads_parts (ih _) _).bind fun q hq => ?_
          exact Reads.bind (.pure (.list (isDocument_zipWith hp hq)))
            fun _ hv => reads_labelled hv _ _
        · rename_i entries hentries
          refine (reads_parts (ih _) _).bind fun p hp => ?_
          exact Reads.bind (.pure (isDocument_zip (h i (.map entries) hentries) hp))
            fun _ hv => reads_labelled hv _ _

/-- The value that is assembled from the pieces of a document. -/
theorem isDocument_assemble {pieces : Array (Option Piece)} (h : AreWellFormed pieces)
    (root : NodeId) :
    (assemble pieces root).IsDocument := by
  have hstart : KnownWellFormed (Array.replicate pieces.size none) := by
    intro i v hv
    rw [Array.getElem?_replicate] at hv
    split at hv <;> cases hv
  exact (reads_part h _ [] root _ hstart).1

end Construction

/-- **A YAML document is a well-formed value without paths.** -/
theorem isDocument_read {text : List Char} {v : Value} (h : read text = .ok v) : v.IsDocument := by
  obtain ⟨document, -, h⟩ := Outcome.bind_eq_ok_iff.1 h
  cases document with
  | none =>
    rw [← Except.ok.inj h]
    exact .null
  | some found =>
    obtain ⟨graph, root⟩ := found
    obtain ⟨pieces, hpieces, h⟩ := Outcome.bind_eq_ok_iff.1 h
    rw [← Except.ok.inj h]
    exact Construction.isDocument_assemble (Construction.areWellFormed_run hpieces) root

end Yaml

/-! ### Both formats -/

/-- **A document is a well-formed value without paths**, in either format. -/
theorem Document.isDocument_read {format : Format} {text : List Char} {v : Value}
    (h : read format text = .ok v) :
    v.IsDocument := by
  unfold read at h
  split at h
  · split at h
    · rename_i w hw
      rw [← Except.ok.inj h]
      exact Json.isDocument_read hw
    · cases h
    · cases h
  · split at h
    · rename_i w hw
      rw [← Except.ok.inj h]
      exact Yaml.isDocument_read hw
    · cases h
    · cases h
end LintRun
