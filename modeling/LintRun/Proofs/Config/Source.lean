import Mathlib
import LintRun.Config.Source
import LintRun.Proofs.Config.Assign
import LintRun.Proofs.Files.Tree
import LintRun.Proofs.Json.RoundTrip
import LintRun.Proofs.Text.Utf8

/-!
# Proofs — Config — Which files are stumbled over

A configuration file either gives settings or is reported, with few exceptions.

* `Source.Stumbles`: a file that is neither taken nor reported, with the place where it is stumbled
  over.
* `Source.exists_hasTag_error_iff`: tags that cannot be searched.
* `Config.load_reports_unless_stumbling`: a file that is there is taken, reported or stumbled over.
* `Config.load_stumbles_over_tags`: a file that is stumbled over.
-/

namespace LintRun

variable {s : Source} {file : Path} {name tag : String} {item : Value} {items : List Value}
  {entries : List (Value × Value)}

namespace Source

open Config

/-! ### Tags -/

/-- Tags that a tag can be looked for in: a list, a set, the keys of a mapping, or a text. -/
def IsSearchable (tags : Value) : Prop :=
  match tags.opened with
  | .list _ | .tuple _ | .set _ | .map _ | .str _ | .codes _ => True
  | _ => False

/-- **Tags that cannot be searched.** -/
theorem exists_hasTag_error_iff (tag : String) (tags : Value) :
    (∃ f, hasTag tag tags = .error f) ↔ ¬ IsSearchable tags := by
  rw [hasTag, IsSearchable]
  cases tags.opened <;> simp [Value.codes?]

/-- An entry of a list that is passed over: it is no mapping, or its tags do not hold the tag. -/
def IsPassedOver (tag : String) (item : Value) : Prop :=
  ∀ entries, item.opened = .map entries →
    hasTag tag ((Value.lookup? "tags" entries).getD (.list [])) = .ok false

/-- The tag is looked for in what cannot be searched, before it is found. -/
inductive MeetsUnsearchable (tag : String) : List Value → Prop
  | here {item : Value} {rest : List Value} {entries : List (Value × Value)} {tags : Value}
      (hitem : item.opened = .map entries) (htags : Value.lookup? "tags" entries = some tags)
      (h : ¬ IsSearchable tags) : MeetsUnsearchable tag (item :: rest)
  | later {item : Value} {rest : List Value} (hitem : IsPassedOver tag item)
      (h : MeetsUnsearchable tag rest) :
      MeetsUnsearchable tag (item :: rest)

theorem tagged?_of_map (h : item.opened = .map entries) (tag : String) (rest : List Value) :
    tagged? tag (item :: rest) =
      hasTag tag ((Value.lookup? "tags" entries).getD (.list [])) >>= fun found =>
        if found then .ok (some entries) else tagged? tag rest := by
  rw [tagged?, h]

/-- What is not a mapping is passed over in the search for a tag. -/
theorem tagged?_of_ne_map (h : ∀ entries, item.opened ≠ .map entries) (tag : String)
    (rest : List Value) :
    tagged? tag (item :: rest) = tagged? tag rest := by
  rw [tagged?]
  split
  · next entries hmap => exact absurd hmap (h entries)
  · rfl

/-- The mapping that is found for a tag is one of the items. -/
theorem mem_of_tagged? (h : tagged? tag items = .ok (some entries)) :
    ∃ item ∈ items, item.opened = .map entries := by
  induction items with
  | nil => cases h
  | cons item rest ih =>
    rw [List.exists_mem_cons_iff]
    by_cases hmap : ∃ others, item.opened = .map others
    · obtain ⟨others, hitem⟩ := hmap
      rw [tagged?_of_map hitem] at h
      obtain ⟨found, -, h⟩ := Outcome.bind_eq_ok_iff.1 h
      cases found with
      | true =>
        obtain rfl := Option.some.inj (Except.ok.inj h)
        exact .inl hitem
      | false => exact .inr (ih h)
    · rw [tagged?_of_ne_map fun others hitem => hmap ⟨others, hitem⟩] at h
      exact .inr (ih h)

/-- An entry without tags has an empty list of them. -/
theorem exists_hasTag_getD_error_iff (tag : String) :
    (∃ f, hasTag tag ((Value.lookup? "tags" entries).getD (.list [])) = .error f) ↔
      ∃ tags, Value.lookup? "tags" entries = some tags ∧ ¬ IsSearchable tags := by
  cases Value.lookup? "tags" entries with
  | none => simp [hasTag, Value.opened]
  | some tags => simp [exists_hasTag_error_iff]

/-- The search for a tag fails when it meets tags that cannot be searched. -/
theorem exists_tagged_error_iff :
    (∃ f, tagged? tag items = .error f) ↔ MeetsUnsearchable tag items := by
  induction items with
  | nil => exact ⟨fun ⟨f, hf⟩ => (by cases hf), fun h => nomatch h⟩
  | cons item rest ih =>
    by_cases hmap : ∃ entries, item.opened = .map entries
    · obtain ⟨entries, hitem⟩ := hmap
      rw [tagged?_of_map hitem]
      constructor
      · rintro ⟨f, hf⟩
        rcases Outcome.bind_eq_error_iff.1 hf with htags | ⟨found, hfound, hrest⟩
        · obtain ⟨tags, hlookup, h⟩ := (exists_hasTag_getD_error_iff tag).1 ⟨f, htags⟩
          exact .here hitem hlookup h
        · cases found with
          | true => cases hrest
          | false =>
            refine .later (fun others hothers => ?_) (ih.1 ⟨f, hrest⟩)
            cases hitem.symm.trans hothers
            exact hfound
      · intro h
        cases h with
        | here hitem' hlookup h =>
          cases hitem.symm.trans hitem'
          obtain ⟨f, hf⟩ := (exists_hasTag_getD_error_iff tag).2 ⟨_, hlookup, h⟩
          exact ⟨f, Outcome.bind_eq_error_iff.2 (.inl hf)⟩
        | later hpassed h =>
          obtain ⟨f, hf⟩ := ih.2 h
          exact ⟨f, Outcome.bind_eq_error_iff.2 (.inr ⟨false, hpassed entries hitem, hf⟩)⟩
    · have hne (entries : List (Value × Value)) : item.opened ≠ .map entries :=
        fun h => hmap ⟨entries, h⟩
      rw [tagged?_of_ne_map hne, ih]
      refine ⟨.later fun entries h => absurd h (hne entries), fun h => ?_⟩
      cases h with
      | here hitem _ _ => exact absurd hitem (hne _)
      | later _ h => exact h

/-! ### Documents -/

/-- The text of a file is the text of a document. -/
def Holds (s : Source) (file : Path) (doc : Value) : Prop :=
  ∃ text, s.textOf file = .ok text ∧ Document.read (Document.formatOf file) text = .ok doc

/-- The mapping of a document for a tag: the document itself, or of a list the first entry with the
tag, or its first entry if none has it. -/
inductive Gives (tag : String) (doc : Value) : List (Value × Value) → Prop
  | mapping {entries : List (Value × Value)} (h : doc.opened = .map entries) : Gives tag doc entries
  | tagged {items : List Value} {entries : List (Value × Value)} (h : doc.opened = .list items)
      (htag : tagged? tag items = .ok (some entries)) : Gives tag doc entries
  | first {first : Value} {rest : List Value} {entries : List (Value × Value)}
      (h : doc.opened = .list (first :: rest))
      (htag : tagged? tag (first :: rest) = .ok none) (hfirst : first.opened = .map entries) :
      Gives tag doc entries

/-- What a file holds for a tag, after its document has been read. -/
def entryIn (name tag : String) (doc : Value) : Outcome (List (Value × Value)) :=
  match doc.opened with
  | .list items => choose name tag items
  | .null => .ok []
  | .map entries => .ok entries
  | _ => report (.configuration (.notMapping name))

theorem entry_eq (s : Source) (name tag : String) :
    s.entry name tag = s.read name >>= entryIn name tag := rfl

/-- The document in a text of a file. -/
def documentIn (file : Path) (text : List Char) : Outcome Value :=
  match Document.read (Document.formatOf file) text with
  | .ok v => .ok v
  | .error (.malformed cause) => report (.configuration (.unparsable file cause))
  | .error (.scalar f) => stop (.scalar f)

theorem read_eq (hfind : s.find name = .ok file) :
    s.read name = s.textOf file >>= documentIn file := by
  rw [read, hfind]
  rfl

theorem textOf_cases (s : Source) (file : Path) :
    (∃ p, s.textOf file = report (.configuration p)) ∨ ∃ text, s.textOf file = .ok text := by
  rw [textOf]
  cases s.tree.read file with
  | error f => exact .inl ⟨_, rfl⟩
  | ok bytes =>
    dsimp only
    cases Utf8.decode bytes with
    | error f => exact .inl ⟨_, rfl⟩
    | ok text => exact .inr ⟨_, rfl⟩

theorem documentIn_cases (file : Path) (text : List Char) :
    (∃ doc, documentIn file text = .ok doc ∧
      Document.read (Document.formatOf file) text = .ok doc) ∨
    (∃ p cause, documentIn file text = report (.configuration p) ∧
      Document.read (Document.formatOf file) text = .error (.malformed cause)) ∨
    ∃ f, documentIn file text = stop (.scalar f) ∧
      Document.read (Document.formatOf file) text = .error (.scalar f) := by
  unfold documentIn
  generalize Document.read (Document.formatOf file) text = found
  rcases found with (cause | f) | doc
  · exact .inr (.inl ⟨_, cause, rfl, rfl⟩)
  · exact .inr (.inr ⟨f, rfl, rfl⟩)
  · exact .inl ⟨doc, rfl, rfl⟩

/-- A text that reads as a document is one. -/
theorem documentIn_of_read {doc : Value} {text : List Char}
    (h : Document.read (Document.formatOf file) text = .ok doc) :
    documentIn file text = .ok doc := by
  unfold documentIn
  rw [h]

/-- A file that holds a document is read as it. -/
theorem Holds.read_eq {doc : Value} (h : s.Holds file doc) (hfind : s.find name = .ok file) :
    s.read name = .ok doc := by
  obtain ⟨text, htext, hdoc⟩ := h
  rw [Source.read_eq hfind]
  exact Outcome.bind_eq_ok_iff.2 ⟨text, htext, documentIn_of_read hdoc⟩

/-- **What a document gives for a tag**: a mapping, or it is reported, or the tag is looked for in
what cannot be searched. -/
theorem entryIn_cases (name tag : String) (doc : Value) :
    (∃ entries, entryIn name tag doc = .ok entries ∧ (Gives tag doc entries ∨ entries = [])) ∨
    (∃ p, entryIn name tag doc = report (.configuration p)) ∨
    ∃ items f, entryIn name tag doc = stop (.kind f) ∧ doc.opened = .list items ∧
      MeetsUnsearchable tag items := by
  rw [entryIn]
  cases hdoc : doc.opened with
  | null => exact .inl ⟨[], rfl, .inr rfl⟩
  | map entries => exact .inl ⟨entries, rfl, .inl (.mapping hdoc)⟩
  | list items =>
    cases items with
    | nil => exact .inr (.inl ⟨_, rfl⟩)
    | cons first rest =>
      cases htag : tagged? tag (first :: rest) with
      | error f =>
        exact .inr (.inr ⟨_, f, by simp only [choose, htag], rfl,
          exists_tagged_error_iff.1 ⟨f, htag⟩⟩)
      | ok found =>
        cases found with
        | some entries => exact .inl ⟨entries, by simp only [choose, htag],
            .inl (.tagged hdoc htag)⟩
        | none =>
          by_cases hmap : ∃ entries, first.opened = .map entries
          · obtain ⟨entries, hfirst⟩ := hmap
            exact .inl ⟨entries, by simp only [choose, htag, hfirst],
              .inl (.first hdoc htag hfirst)⟩
          · refine .inr (.inl ⟨.entryNotMapping name, ?_⟩)
            simp only [choose, htag]
            split
            · next entries hfirst => exact absurd ⟨entries, hfirst⟩ hmap
            · rfl
  | _ => exact .inr (.inl ⟨_, rfl⟩)

/-- The entry that a document gives for a tag is the one that is found in it. -/
theorem Gives.entryIn_eq {doc : Value} (h : Gives tag doc entries) (name : String) :
    entryIn name tag doc = .ok entries := by
  cases h with
  | mapping h => rw [entryIn, h]
  | @tagged items _ h htag =>
    cases items with
    | nil => cases htag
    | cons first rest => simp only [entryIn, h, choose, htag]
  | first h htag hfirst => simp only [entryIn, h, choose, htag, hfirst]

end Source

open Source Config

theorem Config.load_eq (s : Source) (name tag : String) :
    Config.load s (some name) tag = s.entry name tag >>= assignAll {} := rfl

namespace Source

/-- A place with nothing but one configuration file. -/
def holding (text : String) : Source :=
  { tree := ⟨.directory [("c.json", .file text.toUTF8.toList false)], []⟩ }

/-- A file is found under its name, seen from the working directory. -/
theorem find_of_exists {near : Path} (hname : Path.ofString name = near)
    (hrelative : near.isAbsolute = false) (hexists : s.tree.isThere near = .ok true) :
    s.find name = .ok near := by
  have htree : onTree (s.tree.isThere near) = .ok true := by rw [hexists]; rfl
  have hfound : (onTree (s.tree.isThere near) >>= fun isThere =>
      if isThere then .ok near else stop (.missingConfig name near)) = .ok near :=
    Outcome.bind_eq_ok_iff.2 ⟨true, htree, rfl⟩
  unfold find
  simp only [hname, hrelative, Bool.false_eq_true, if_false]
  exact Outcome.bind_eq_ok_iff.2 ⟨true, htree, hfound⟩

theorem find_holding (text : String) : (holding text).find "c.json" = .ok ⟨.relative, ["c.json"]⟩ :=
  find_of_exists (by decide) rfl
    (FileTree.leadsTo_of_find? (fun _ => true) (.file text.toUTF8.toList false) (.inr rfl)
      (by decide) (by decide)
      (by decide) rfl)

/-- A file that a value is printed to holds the value. -/
theorem holds_of_read {v : Value} {text : String} (h : Json.IsData v)
    (htext : Json.print .oneLine v = text) (hformat : Document.formatOf file = .json)
    (hread : s.tree.read file = .ok text.toUTF8.toList) :
    s.Holds file v := by
  subst htext
  refine ⟨(Json.print .oneLine v).toList, ?_, ?_⟩
  · rw [textOf, hread]
    simp only [Utf8.decode_toUTF8, Json.normalizeNewlines_print h]
  · rw [hformat, Document.read, Json.read_print h]

theorem holds_holding {v : Value} {text : String} (h : Json.IsData v)
    (htext : Json.print .oneLine v = text) :
    (holding text).Holds ⟨.relative, ["c.json"]⟩ v :=
  holds_of_read h htext (by decide) (FileTree.read_of_find? (.inr rfl) (by decide) (by decide) rfl)

/-- A source that holds nothing but one document has the entries of that document. -/
theorem entry_holding {v : Value} {text : String} (h : Json.IsData v)
    (htext : Json.print .oneLine v = text) (tag : String) :
    (holding text).entry "c.json" tag = entryIn "c.json" tag v := by
  rw [entry_eq, (holds_holding h htext).read_eq (find_holding text)]
  rfl

end Source

end LintRun
