import Mathlib
import LintRun.Proofs.Config.Override
import LintRun.Proofs.Config.Source
import LintRun.Proofs.Document.WellFormed

/-!
# Proofs — Config — The entry for a tag

Which entry of a list gives the settings for a tag, if each of them would be taken.

* `Config.Entry`: a mapping that is taken, with its settings.
* `Config.Entry.carries`, `Config.Entry.strays`: a tag is one of the tags, or only a part of the
  text in their place.
* `Config.Entry.hasTag_eq`: a tag is found in both cases.
* `Config.Entry.carries_iff`: it is carried exactly where the settings have it.
* `Config.load_takes_tagged_entry`: the settings are those of the first entry that carries the tag,
  unless one strays.
* `Config.load_takes_straying_entry`: a list in which one does.
-/

namespace LintRun

/-- A text is a part of itself. -/
theorem Text.occursIn_self (text : Text.Codes) : occursIn text text = true := by
  cases text with
  | nil => rfl
  | cons c rest => simp [occursIn, List.isPrefixOf_iff_prefix]

namespace Config

variable {v : Value} {items : List Value}

/-! ### Texts of documents -/

/-- What is listed by a well-formed value is well-formed. -/
theorem isWellFormed_of_listed? {allowed : Path → Prop} (hv : v.IsWellFormed allowed)
    (h : listed? v = some items) :
    ∀ item ∈ items, item.IsWellFormed allowed := by
  rw [listed?] at h
  split at h
  · next hopened =>
    obtain rfl := Option.some.inj h
    exact hv.items (.inl hopened)
  · next hopened =>
    obtain rfl := Option.some.inj h
    exact hv.items (.inr hopened)
  -- a text is the one item of its list
  · obtain rfl := Option.some.inj h
    exact List.forall_mem_singleton.2 hv
  · obtain rfl := Option.some.inj h
    exact List.forall_mem_singleton.2 hv
  · cases h

/-- What stands for a text in a document is one. -/
theorem exists_ofText_of_isDocument (hv : v.IsDocument) (h : hasText v = true) :
    ∃ t, v = .ofText t := by
  cases hv with
  | str s => exact ⟨s, rfl⟩
  | codes hunits => exact ⟨.codes _ hunits, rfl⟩
  | path hnone => exact hnone.elim
  | _ => cases h

/-! ### Mappings that are taken -/

/-- A mapping that is taken, and its settings. -/
structure Entry where
  fields : List (Value × Value)
  settings : Config
  accepted : assignAll {} fields = .ok settings

namespace Entry

variable {e : Entry} {tag : String}

/-- The tags as they are held: one text counts as a list of it. -/
def tags (e : Entry) : List Value := ((Value.lookup? "tags" e.fields).bind listed?).getD []

/-- The tag is one of the tags. -/
def carries (e : Entry) (tag : String) : Bool := e.tags.any fun v => Value.sameKey v (.str tag)

/-- There is one text in the place of the tags, and the tag is a part of it only. -/
def strays (e : Entry) (tag : String) : Bool :=
  (Value.lookup? "tags" e.fields).any fun v =>
    v.codes?.any (Text.occursIn (Text.codesOf tag.toList)) && !Value.sameKey v (.str tag)

theorem takes_tags (e : Entry) (h : Value.lookup? "tags" e.fields = some v) : Key.tags.Takes v := by
  obtain ⟨key, hkey, htakes⟩ :=
    (exists_assignAll_iff {}).1 ⟨_, e.accepted⟩ _ (Value.mem_of_lookup?_eq h)
  obtain rfl : Key.tags = key := text_inj (Value.str.inj hkey)
  exact htakes

/-- What is taken as tags is a list of texts, or one text. -/
theorem tags_cases (h : Key.tags.Takes v) :
    (∃ items, (v.opened = .list items ∨ v.opened = .tuple items) ∧
      listed? v = some items ∧ v.codes? = none) ∨
    ∃ units, v.opened = v ∧ v.codes? = some units ∧ listed? v = some [v] := by
  have htakes := h.1
  simp only [Key.offence?] at htakes
  cases hopened : v.opened with
  | list items | tuple items =>
    have hlisted : listed? v = some items := by rw [listed?, hopened]
    refine .inl ⟨items, by simp, hlisted, ?_⟩
    cases v <;> first | rfl | cases hopened
  | str _ | codes _ =>
    have hlisted : listed? v = some [v] := by rw [listed?, hopened]
    rw [hlisted] at htakes
    have htext : hasText v = true := by simpa using htakes
    cases v with
    | str _ | codes _ => exact .inr ⟨_, by rw [← hopened]; rfl, rfl, hlisted⟩
    | path _ => cases hopened
    | _ => cases htext
  | _ =>
    have hlisted : listed? v = none := by rw [listed?, hopened]
    rw [hlisted] at htakes
    cases htakes

/-- **A tag is found where it is carried, and where it strays.** -/
theorem hasTag_eq (e : Entry) (tag : String) :
    Source.hasTag tag ((Value.lookup? "tags" e.fields).getD (.list [])) =
      .ok (e.carries tag || e.strays tag) := by
  cases hlookup : Value.lookup? "tags" e.fields with
  | none => simp [carries, strays, tags, hlookup, Source.hasTag, Value.opened]
  | some v =>
    rcases tags_cases (e.takes_tags hlookup) with ⟨items, hopened, hlisted, hcodes⟩ |
      ⟨units, hopened, hcodes, hlisted⟩
    · have hcarries : (e.carries tag || e.strays tag) =
          items.any fun v => Value.sameKey v (.str tag) := by
        simp [carries, strays, tags, hlookup, hlisted, hcodes]
      rw [hcarries]
      rcases hopened with hopened | hopened <;> simp [Source.hasTag, hopened]
    · have hfound : Source.hasTag tag v = .ok (Text.occursIn (Text.codesOf tag.toList) units) := by
        rw [Source.hasTag, hopened]
        cases v with
        | str _ | codes _ =>
          obtain rfl := Option.some.inj hcodes
          rfl
        | _ => cases hcodes
      rw [Option.getD_some, hfound]
      by_cases hsame : Value.sameKey v (.str tag) = true
      · obtain rfl := Value.sameKey_str_iff.1 hsame
        obtain rfl : Text.codesOf tag.toList = units := Option.some.inj hcodes
        simp [carries, tags, hlookup, hlisted, hsame, Text.occursIn_self]
      · simp [carries, strays, tags, hlookup, hlisted, hcodes, hsame]

/-- **The tags of the settings are the tags as they are held**, if no text is a key twice. -/
theorem tags_settings (e : Entry) (h : Value.OnceKeyed e.fields) :
    e.settings.tags = e.tags.map Value.plainText := by
  have hget := get_assignEntries h (assignEntries_of_assignAll e.accepted) .tags
  refine texts_inj (hget.trans ?_)
  rw [asked?, Key.text, tags]
  cases Value.lookup? "tags" e.fields <;> rfl

/-- A tag of a document is a text. -/
theorem exists_ofText_of_mem_tags (e : Entry) (hdoc : ∀ field ∈ e.fields, field.2.IsDocument)
    (hv : v ∈ e.tags) :
    ∃ t, v = .ofText t := by
  rw [tags] at hv
  cases hlookup : Value.lookup? "tags" e.fields with
  | none => simp [hlookup] at hv
  | some held =>
    rw [hlookup, Option.bind_some] at hv
    have hheld : held.IsDocument := hdoc _ (Value.mem_of_lookup?_eq hlookup)
    have htakes := (e.takes_tags hlookup).1
    cases hlisted : listed? held with
    | none => simp [hlisted] at hv
    | some items =>
      rw [hlisted, Option.getD_some] at hv
      simp only [Key.offence?, hlisted] at htakes
      have htext : hasText v = true := by simpa using List.find?_eq_none.1 htakes v hv
      exact exists_ofText_of_isDocument (isWellFormed_of_listed? hheld hlisted v hv) htext

/-- **A tag is carried exactly by an entry of a document whose own settings have it.** -/
theorem carries_iff (e : Entry) (h : Value.OnceKeyed e.fields)
    (hdoc : ∀ field ∈ e.fields, field.2.IsDocument) (tag : String) :
    e.carries tag = true ↔ ↑tag ∈ e.settings.tags := by
  rw [tags_settings e h, List.mem_map, carries, List.any_eq_true]
  refine exists_congr fun v => and_congr_right fun hv => ?_
  obtain ⟨t, rfl⟩ := e.exists_ofText_of_mem_tags hdoc hv
  rw [Value.sameKey_str_iff, Value.plainText_ofText]
  exact ⟨fun ht => Value.ofText_injective (t := tag) ht, congrArg Value.ofText⟩

end Entry

/-! ### Lists of such mappings -/

variable {s : Source} {name tag : String} {doc : Value}

/-- The values of a list are these mappings. -/
def Entry.AreHeldBy (items : List Value) (es : List Entry) : Prop :=
  items.map Value.opened = es.map fun e => .map e.fields

/-- The first mapping in which the tag is found. -/
theorem tagged?_eq {es : List Entry} (h : Entry.AreHeldBy items es) (tag : String) :
    Source.tagged? tag items =
      .ok ((es.find? fun e => e.carries tag || e.strays tag).map Entry.fields) := by
  induction es generalizing items with
  | nil =>
    obtain rfl : items = [] := List.map_eq_nil_iff.1 h
    rfl
  | cons e rest ih =>
    obtain ⟨item, others, rfl, hitem, hothers⟩ := List.map_eq_cons_iff.1 h
    rw [Source.tagged?_of_map hitem, e.hasTag_eq tag, List.find?_cons]
    cases e.carries tag || e.strays tag with
    | true => rfl
    | false => exact ih hothers

/-- What is read under a name is a document. -/
theorem isDocument_of_read (h : s.read name = .ok doc) : doc.IsDocument := by
  obtain ⟨file, -, h⟩ := Outcome.bind_eq_ok_iff.1 h
  obtain ⟨text, -, h⟩ := Outcome.bind_eq_ok_iff.1 h
  rcases Source.documentIn_cases file text with ⟨v, hin, hread⟩ | ⟨p, _, hin, -⟩ | ⟨f, hin, -⟩
  · rw [← Except.ok.inj (hin.symm.trans h)]
    exact Document.isDocument_read hread
  · cases hin.symm.trans h
  · cases hin.symm.trans h

/-- What a document gives for a tag are values that documents can give. -/
theorem isDocument_of_gives {entries : List (Value × Value)} (hdoc : doc.IsDocument)
    (h : Source.Gives tag doc entries) : ∀ e ∈ entries, e.2.IsDocument := by
  cases h with
  | mapping h => exact (hdoc.entries h).2
  | tagged h htag =>
    obtain ⟨item, hmem, hopened⟩ := Source.mem_of_tagged? htag
    exact ((hdoc.items (.inl h) item hmem).entries hopened).2
  | first h _ hfirst => exact ((hdoc.items (.inl h) _ List.mem_cons_self).entries hfirst).2

/-- The mappings of a list have no text as a key twice, and hold what documents can give. -/
theorem isDocument_fields {es : List Entry} (hread : s.read name = .ok doc)
    (hlist : doc.opened = .list items) (hitems : Entry.AreHeldBy items es) :
    ∀ e ∈ es, Value.OnceKeyed e.fields ∧ ∀ field ∈ e.fields, field.2.IsDocument := by
  intro e he
  have hmem : .map e.fields ∈ es.map fun e => Value.map e.fields := List.mem_map_of_mem he
  rw [← hitems] at hmem
  obtain ⟨item, hitem, hopened⟩ := List.mem_map.1 hmem
  exact ((isDocument_of_read hread).items (.inl hlist) item hitem).entries hopened

/-- **The settings for a tag are those of the first entry that carries it, else those of the first
one**, unless the tag strays. Let the document under a name be a list of mappings that are all
taken. An entry carries the tag exactly if its own settings have it. An entry in which the tag is
only a part of the one text in the place of its tags is taken as if it carried the tag; without such
an entry, the first one whose own settings have the tag counts. -/
theorem load_takes_tagged_entry {first : Entry} {rest : List Entry} (hread : s.read name = .ok doc)
    (hlist : doc.opened = .list items) (hitems : Entry.AreHeldBy items (first :: rest))
    (tag : String) :
    let es := first :: rest
    Config.load s (some name) tag =
      .ok ((es.find? fun e => e.carries tag || e.strays tag).getD first).settings ∧
    (∀ e ∈ es, e.carries tag = true ↔ ↑tag ∈ e.settings.tags) ∧
    ((∀ e ∈ es, e.strays tag = false) →
      Config.load s (some name) tag =
        .ok ((es.find? fun e => ↑tag ∈ e.settings.tags).getD first).settings) := by
  intro es
  have hcarries : ∀ e ∈ es, e.carries tag = true ↔ ↑tag ∈ e.settings.tags := fun e he =>
    have ⟨hkeys, hdoc⟩ := isDocument_fields hread hlist hitems e he
    e.carries_iff hkeys hdoc tag
  have hload : Config.load s (some name) tag =
      .ok ((es.find? fun e => e.carries tag || e.strays tag).getD first).settings := by
    have hgives : Source.Gives tag doc
        ((es.find? fun e => e.carries tag || e.strays tag).getD first).fields := by
      have htagged := tagged?_eq hitems tag
      obtain ⟨item, others, rfl, hitem, -⟩ := List.map_eq_cons_iff.1 hitems
      cases hfind : es.find? fun e => e.carries tag || e.strays tag with
      | some e => exact .tagged hlist (htagged.trans (by rw [hfind]; rfl))
      | none => exact .first hlist (htagged.trans (by rw [hfind]; rfl)) hitem
    rw [load_eq, Source.entry_eq, hread]
    exact Outcome.bind_eq_ok_iff.2 ⟨_, hgives.entryIn_eq name, Entry.accepted _⟩
  refine ⟨hload, hcarries, fun h => ?_⟩
  have hfind : (es.find? fun e => e.carries tag || e.strays tag) =
      es.find? fun e => ↑tag ∈ e.settings.tags := by
    refine List.find?_congr fun e he => ?_
    rw [h e he, Bool.or_false, Bool.eq_iff_iff, hcarries e he, decide_eq_true_iff]
  rw [hload, hfind]

/-- A mapping of tags and a number of jobs. -/
def jobsFor (tags : Value) (jobs : Nat) : List (Value × Value) :=
  Value.entriesWith [("tags", tags), ("jobs", .int jobs)]

theorem isData_jobsFor {tags : Value} (htags : Json.IsData tags) {jobs : Nat} (hjobs : jobs < 10) :
    Json.IsData (.map (jobsFor tags jobs)) := by
  refine .map (by simp) ?_
  simp only [List.forall_mem_cons, List.not_mem_nil, false_implies, implies_true, and_true]
  exact ⟨htags, .of_lt_ten hjobs⟩

/-- Two jobs under one text as tags, three jobs under a list of one tag. -/
def jobsList (text tag : String) : Value :=
  .list [.map (jobsFor (.str text) 2), .map (jobsFor (.list [.str tag]) 3)]

theorem read_jobsList {content text tag : String}
    (h : Json.print .oneLine (jobsList text tag) = content) :
    (Source.holding content).read "c.json" = .ok (jobsList text tag) := by
  have hdata : Json.IsData (jobsList text tag) := by
    refine .list ?_
    simp only [List.forall_mem_cons, List.not_mem_nil, false_implies, implies_true, and_true]
    exact ⟨isData_jobsFor (.str text) (by decide),
      isData_jobsFor (.list (by simpa using .str tag)) (by decide)⟩
  exact (Source.holds_holding hdata h).read_eq (Source.find_holding content)

/-- A tag in a list behind another text. -/
theorem load_takes_second_entry :
    let s := Source.holding
      "[\x7b\"tags\": \"default\", \"jobs\": 2\x7d, \x7b\"tags\": [\"ci\"], \"jobs\": 3\x7d]"
    let first : Entry := ⟨jobsFor (.str "default") 2, { jobs := 2, tags := ["default"] }, by cbv⟩
    let second : Entry := ⟨jobsFor (.list [.str "ci"]) 3, { jobs := 3, tags := ["ci"] }, by cbv⟩
    let items : List Value := [.map first.fields, .map second.fields]
    s.read "c.json" = .ok (.list items) ∧ Entry.AreHeldBy items [first, second] ∧
      (∀ e ∈ [first, second], e.strays "ci" = false) ∧
      Config.load s (some "c.json") "ci" = .ok second.settings := by
  intro s first second items
  have hread : s.read "c.json" = .ok (.list items) := read_jobsList (by decide)
  have hitems : Entry.AreHeldBy items [first, second] := rfl
  have hes : ∀ e ∈ [first, second], e.strays "ci" = false :=
    List.forall_mem_cons.2 ⟨by decide, List.forall_mem_singleton.2 (by decide)⟩
  exact ⟨hread, hitems, hes, (load_takes_tagged_entry hread rfl hitems "ci").2.2 hes⟩

/-- **A tag that is a part of another text is found there.** -/
theorem load_takes_straying_entry :
    let s := Source.holding
      "[\x7b\"tags\": \"ci-nightly\", \"jobs\": 2\x7d, \x7b\"tags\": [\"ci\"], \"jobs\": 3\x7d]"
    s.read "c.json" =
        .ok (.list [.map (jobsFor (.str "ci-nightly") 2), .map (jobsFor (.list [.str "ci"]) 3)]) ∧
      assignAll {} (jobsFor (.str "ci-nightly") 2) = .ok { jobs := 2, tags := ["ci-nightly"] } ∧
      assignAll {} (jobsFor (.list [.str "ci"]) 3) = .ok { jobs := 3, tags := ["ci"] } ∧
      Config.load s (some "c.json") "ci" = .ok { jobs := 2, tags := ["ci-nightly"] } := by
  intro s
  have hread : s.read "c.json" = .ok (jobsList "ci-nightly" "ci") := read_jobsList (by decide)
  refine ⟨hread, by cbv, by cbv, ?_⟩
  rw [load_eq, Source.entry_eq, hread]
  cbv

end Config
end LintRun
