import Mathlib
import LintRun.Proofs.Checks.Catalog
import LintRun.Proofs.Failure.Outcome
import LintRun.Proofs.Text.Pieces

/-!
# Proofs — Checks — Histories of extensions

What becomes of a catalog that is asked for extensions, one after the other, of which it refuses
some.

* `Catalog.identifiers_eq_ok_iff`, `Catalog.ofItems_eq_ok_iff`: the items that a catalog is made of.
* `Catalog.Extension`, `Catalog.extend_eq_ok_iff`: what a catalog can be asked for, and what it
  makes of it.
* `Catalog.History`: the extensions taken over so far. `Catalog.History.Keeps` is kept by each step.
* `Catalog.extensions_accumulate`: a catalog under any history of extensions.
-/

namespace LintRun.Catalog

/-- An item that a catalog takes over: a text that is not blank. -/
def IsCheck (item : Value) : Prop := item.codes?.isSome = true ∧ isIdentifier item.plainText = true

instance (item : Value) : Decidable (IsCheck item) := inferInstanceAs (Decidable (_ ∧ _))

variable {group : CheckGroup} {index : Nat} {items required optional : List Value}
  {checks : List RawText}
  {c extended : Catalog}

/-- The identifier of a check is its text; what is no check has none. -/
theorem identifier?_eq (item : Value) :
    identifier? item = if IsCheck item then some item.plainText else none :=
  if_congr Bool.and_eq_true_iff rfl rfl

/-- **Items are identifiers** exactly if each of them is a text that is not blank. -/
theorem identifiers_eq_ok_iff :
    identifiers group index items = .ok checks ↔
      (∀ item ∈ items, IsCheck item) ∧ checks = items.map Value.plainText := by
  induction items generalizing index checks with
  | nil => simp [identifiers, eq_comm]
  | cons item rest ih =>
    rw [identifiers, identifier?_eq, List.forall_mem_cons, List.map_cons]
    by_cases hitem : IsCheck item
    · rw [if_pos hitem, Outcome.map_eq_ok_iff]
      constructor
      · rintro ⟨others, hothers, rfl⟩
        obtain ⟨hrest, rfl⟩ := ih.1 hothers
        exact ⟨⟨hitem, hrest⟩, rfl⟩
      · rintro ⟨⟨-, hrest⟩, rfl⟩
        exact ⟨_, ih.2 ⟨hrest, rfl⟩, rfl⟩
    · rw [if_neg hitem]
      simp [hitem]

/-- A catalog can be made of items exactly if all of them are texts that are not blank. -/
theorem ofItems_eq_ok_iff :
    ofItems required optional = .ok c ↔
      (∀ item ∈ required ++ optional, IsCheck item) ∧
        c = ⟨required.map Value.plainText, optional.map Value.plainText⟩ := by
  simp only [ofItems, Outcome.bind_eq_ok_iff, identifiers_eq_ok_iff, List.forall_mem_append]
  constructor
  · rintro ⟨r, ⟨hrequired, rfl⟩, o, ⟨hoptional, rfl⟩, hc⟩
    exact ⟨⟨hrequired, hoptional⟩, (Except.ok.inj hc).symm⟩
  · rintro ⟨⟨hrequired, hoptional⟩, rfl⟩
    exact ⟨_, ⟨hrequired, rfl⟩, _, ⟨hoptional, rfl⟩, rfl⟩

/-- The identifiers of a catalog are identifiers. -/
def IsSound (c : Catalog) : Prop := ∀ check ∈ c.required ++ c.optional, isIdentifier check = true

/-- Identifiers are taken over as they stand. -/
theorem isCheck_ofText_iff (check : RawText) :
    IsCheck (.ofText check) ↔ isIdentifier check = true := by
  simp [IsCheck]

theorem plainText_comp_ofText : Value.plainText ∘ Value.ofText = id := funext Value.plainText_ofText

/-- A catalog that is made of items is sound. -/
theorem ofItems_isSound (h : ofItems required optional = .ok c) : c.IsSound := by
  obtain ⟨hchecks, rfl⟩ := ofItems_eq_ok_iff.1 h
  intro check hcheck
  rw [← List.map_append] at hcheck
  obtain ⟨item, hitem, rfl⟩ := List.mem_map.1 hcheck
  exact (hchecks item hitem).2

/-! ### Collections -/

theorem itemsOf_eq_ok_iff {v : Value} : itemsOf v = .ok items ↔ v.items? = .ok items := by
  rw [itemsOf]
  split <;> simp_all [stop]

theorem ofCollections_eq_ok_iff {required optional : Value} :
    ofCollections required optional = .ok c ↔
      ∃ r o, required.items? = .ok r ∧ optional.items? = .ok o ∧ ofItems r o = .ok c := by
  simp only [ofCollections, Outcome.bind_eq_ok_iff, itemsOf_eq_ok_iff, exists_and_left]
  refine exists_congr
    fun r => and_congr_right fun _ => exists_congr fun o => and_congr_right fun _ => ?_
  cases ofItems r o <;> simp [report]

/-- A catalog that is made of collections is sound. -/
theorem ofCollections_isSound {required optional : Value}
    (h : ofCollections required optional = .ok c) :
    c.IsSound := by
  obtain ⟨r, o, -, -, hitems⟩ := ofCollections_eq_ok_iff.1 h
  exact ofItems_isSound hitems

/-! ### Extensions -/

/-- What a catalog is asked to take over: two collections of any kind. -/
structure Extension where
  required : Value
  optional : Value

/-- The items of a collection; what is no collection has none. -/
def itemsIn (v : Value) : List Value :=
  match v.items? with
  | .ok items => items
  | .error _ => []

/-- The items of a collection as texts. -/
def textsIn (v : Value) : List RawText := (itemsIn v).map Value.plainText

/-- An extension of two collections, all items of which are texts that are not blank. -/
def Extension.IsAdmissible (e : Extension) : Prop :=
  ∃ r o, e.required.items? = .ok r ∧ e.optional.items? = .ok o ∧ ∀ item ∈ r ++ o, IsCheck item

/-- The catalog with the texts of an extension at the end of each collection. -/
def adding (c : Catalog) (e : Extension) : Catalog :=
  ⟨c.required ++ textsIn e.required, c.optional ++ textsIn e.optional⟩

theorem itemsIn_eq {v : Value} (h : v.items? = .ok items) : itemsIn v = items := by
  rw [itemsIn, h]

variable {e : Extension}

/-- **A catalog takes an extension over** exactly if it is admissible, and then adds its texts. -/
theorem extend_eq_ok_iff (hc : c.IsSound) :
    c.extend e.required e.optional = .ok extended ↔ e.IsAdmissible ∧ extended = c.adding e := by
  have hown (own : List RawText) (items : List Value) :
      (own.map Value.ofText ++ items).map Value.plainText = own ++ items.map Value.plainText := by
    rw [List.map_append, List.map_map, plainText_comp_ofText, List.map_id]
  have hchecks (r o : List Value) :
      (∀ item ∈ (c.required.map .ofText ++ r) ++ (c.optional.map .ofText ++ o), IsCheck item) ↔
        ∀ item ∈ r ++ o, IsCheck item := by
    obtain ⟨hrequired, hoptional⟩ := List.forall_mem_append.1 hc
    simp only [List.forall_mem_append, List.forall_mem_map, isCheck_ofText_iff]
    exact ⟨fun ⟨⟨_, hr⟩, _, ho⟩ => ⟨hr, ho⟩, fun ⟨hr, ho⟩ => ⟨⟨hrequired, hr⟩, hoptional, ho⟩⟩
  simp only [extend, Outcome.bind_eq_ok_iff, itemsOf_eq_ok_iff]
  constructor
  · rintro ⟨r, hr, o, ho, h⟩
    cases hitems : ofItems (c.required.map .ofText ++ r) (c.optional.map .ofText ++ o) with
    | error p => simp [hitems, report] at h
    | ok made =>
      obtain rfl : made = extended := by simpa [hitems] using h
      obtain ⟨hall, rfl⟩ := ofItems_eq_ok_iff.1 hitems
      refine ⟨⟨r, o, hr, ho, (hchecks r o).1 hall⟩, ?_⟩
      rw [hown, hown, adding, textsIn, textsIn, itemsIn_eq hr, itemsIn_eq ho]
  · rintro ⟨⟨r, o, hr, ho, hall⟩, rfl⟩
    have hitems := ofItems_eq_ok_iff.2 ⟨(hchecks r o).2 hall, rfl⟩
    refine ⟨r, hr, o, ho, ?_⟩
    rw [hitems, hown, hown, adding, textsIn, textsIn, itemsIn_eq hr, itemsIn_eq ho]

theorem Extension.IsAdmissible.isCheck (h : e.IsAdmissible) :
    ∀ item ∈ itemsIn e.required ++ itemsIn e.optional, IsCheck item := by
  obtain ⟨r, o, hr, ho, hall⟩ := h
  rwa [itemsIn_eq hr, itemsIn_eq ho]

/-- An admissible extension keeps a catalog sound. -/
theorem IsSound.adding (hc : c.IsSound) (he : e.IsAdmissible) : (c.adding e).IsSound := by
  obtain ⟨hrequired, hoptional⟩ := List.forall_mem_append.1 hc
  obtain ⟨hr, ho⟩ := List.forall_mem_append.1 he.isCheck
  simp only [IsSound, Catalog.adding, textsIn, List.forall_mem_append, List.forall_mem_map]
  exact ⟨⟨hrequired, fun item hitem => (hr item hitem).2⟩, hoptional,
    fun item hitem => (ho item hitem).2⟩

/-! ### Histories -/

/-- Where extensions have led that a catalog was asked for: the catalog that it has become, and the
extensions that it has taken over, in order. -/
structure History where
  catalog : Catalog
  taken : List Extension

namespace History

/-- One more extension is taken over, or refused; then everything stays as it was. -/
def step (h : History) (e : Extension) : History :=
  match h.catalog.extend e.required e.optional with
  | .ok extended => ⟨extended, h.taken ++ [e]⟩
  | .error _ => h

/-- Where a catalog is led that is asked for extensions, one after the other. -/
def run (start : Catalog) (asked : List Extension) : History := asked.foldl step ⟨start, []⟩

/-- What holds after any extensions: the catalog is the one from the start with the texts of those
taken over, and all of these are identifiers. -/
structure Keeps (start : Catalog) (h : History) : Prop where
  isSound : h.catalog.IsSound
  isAdmissible : ∀ e ∈ h.taken, e.IsAdmissible
  required_eq : h.catalog.required = start.required ++ h.taken.flatMap fun e => textsIn e.required
  optional_eq : h.catalog.optional = start.optional ++ h.taken.flatMap fun e => textsIn e.optional

variable {start : Catalog} {h : History}

/-- An admissible extension is taken. -/
theorem step_of_isAdmissible (hsound : h.catalog.IsSound) (he : e.IsAdmissible) :
    h.step e = ⟨h.catalog.adding e, h.taken ++ [e]⟩ := by
  rw [step, (extend_eq_ok_iff hsound).2 ⟨he, rfl⟩]

/-- An extension that is not admissible changes nothing. -/
theorem step_of_not_isAdmissible (hsound : h.catalog.IsSound) (he : ¬ e.IsAdmissible) :
    h.step e = h := by
  rw [step]
  split
  · next hextend => exact absurd ((extend_eq_ok_iff hsound).1 hextend).1 he
  · rfl

/-- A step keeps this, whether the extension is taken over or refused. -/
theorem Keeps.step (hkeeps : Keeps start h) (e : Extension) : Keeps start (h.step e) := by
  by_cases he : e.IsAdmissible
  · rw [step_of_isAdmissible hkeeps.isSound he]
    refine ⟨hkeeps.isSound.adding he, ?_, ?_, ?_⟩
    · exact List.forall_mem_append.2 ⟨hkeeps.isAdmissible, List.forall_mem_singleton.2 he⟩
    · simp [adding, hkeeps.required_eq]
    · simp [adding, hkeeps.optional_eq]
  · rw [step_of_not_isAdmissible hkeeps.isSound he]
    exact hkeeps

/-- **So it holds after any history.** -/
theorem keeps_run (hstart : start.IsSound) (asked : List Extension) :
    Keeps start (run start asked) := by
  have hfold (h : History) (hkeeps : Keeps start h) : Keeps start (asked.foldl History.step h) := by
    induction asked generalizing h with
    | nil => exact hkeeps
    | cons e rest ih => exact ih _ (hkeeps.step e)
  exact hfold _ ⟨hstart, by simp, by simp, by simp⟩

/-- **Extensions that are all taken over are one extension** by all their items, in order. -/
theorem extend_of_taken (hstart : start.IsSound) {asked : List Extension}
    (htaken : (run start asked).taken = asked) :
    start.extend (.list (asked.flatMap fun e => itemsIn e.required))
        (.list (asked.flatMap fun e => itemsIn e.optional)) =
      .ok (run start asked).catalog := by
  have hkeeps := keeps_run hstart asked
  have hrequired := hkeeps.required_eq
  have hoptional := hkeeps.optional_eq
  have hadmissible := hkeeps.isAdmissible
  rw [htaken] at hrequired hoptional hadmissible
  set whole : Extension :=
    ⟨.list (asked.flatMap fun e => itemsIn e.required),
      .list (asked.flatMap fun e => itemsIn e.optional)⟩
  have hwhole : whole.IsAdmissible := by
    refine ⟨_, _, rfl, rfl, ?_⟩
    simp only [List.forall_mem_append, List.forall_mem_flatMap]
    exact ⟨fun e he => (List.forall_mem_append.1 (hadmissible e he).isCheck).1,
      fun e he => (List.forall_mem_append.1 (hadmissible e he).isCheck).2⟩
  have htexts (pick : Extension → Value) :
      (asked.flatMap fun e => textsIn (pick e)) =
        textsIn (.list (asked.flatMap fun e => itemsIn (pick e))) := by
    show _ = (asked.flatMap fun e => itemsIn (pick e)).map Value.plainText
    rw [List.map_flatMap]
    rfl
  refine (extend_eq_ok_iff hstart).2 ⟨hwhole, ?_⟩
  calc (run start asked).catalog =
    ⟨(run start asked).catalog.required, (run start asked).catalog.optional⟩ := rfl
    _ = start.adding whole := by
      rw [hrequired, hoptional, htexts, htexts]
      rfl

end History

/-- A catalog is found again in what it hands over exactly if it is not empty and no identifier has
a comma. -/
theorem splitAt_composed_iff :
    Text.splitAt ','.toNat c.composed.units = (c.required ++ c.optional).map RawText.units ↔
      c.required ++ c.optional ≠ [] ∧ ∀ check ∈ c.required ++ c.optional,
        ','.toNat ∉ check.units := by
  rw [composed, RawText.units_joinWith, show RawText.units "," = [','.toNat] from rfl,
    Text.splitAt_intercalate_iff, List.forall_mem_map, Ne, List.map_eq_nil_iff]

/-- **A catalog under any history of extensions.** Let a catalog be asked for extensions, one after
the other; one that it refuses leaves it as it was. Whatever it was asked for, it takes the next
extension over exactly if this consists of two collections and each of their items is a text that is
not blank. Its collections are those from the start with the texts of all extensions taken over, in
order, and hold identifiers only. Extensions that are taken over one after the other are the same as
one by all their items. Its identifiers are found again between the commas of what it hands over
exactly if there are some and none of them has a comma. -/
theorem extensions_accumulate {required optional : Value} {start : Catalog}
    (hstart : ofCollections required optional = .ok start) (asked : List Extension) :
    let h := History.run start asked
    (∀ e : Extension, (∃ extended, h.catalog.extend e.required e.optional = .ok extended) ↔
      ∃ r o, e.required.items? = .ok r ∧ e.optional.items? = .ok o ∧
        ∀ item ∈ r ++ o, IsCheck item) ∧
    h.catalog.required = start.required ++ h.taken.flatMap (fun e => textsIn e.required) ∧
    h.catalog.optional = start.optional ++ h.taken.flatMap (fun e => textsIn e.optional) ∧
    (∀ check ∈ h.catalog.required ++ h.catalog.optional, isIdentifier check = true) ∧
    (∀ more, (History.run h.catalog more).taken = more →
      h.catalog.extend (.list (more.flatMap fun e => itemsIn e.required))
        (.list (more.flatMap fun e => itemsIn e.optional)) =
          .ok (History.run h.catalog more).catalog) ∧
    (Text.splitAt ','.toNat h.catalog.composed.units =
      (h.catalog.required ++ h.catalog.optional).map RawText.units ↔
      h.catalog.required ++ h.catalog.optional ≠ [] ∧
        ∀ check ∈ h.catalog.required ++ h.catalog.optional, ','.toNat ∉ check.units) := by
  intro h
  have hkeeps : History.Keeps start h := History.keeps_run (ofCollections_isSound hstart) asked
  refine ⟨fun e => ?_, hkeeps.required_eq, hkeeps.optional_eq, hkeeps.isSound,
    fun more => History.extend_of_taken hkeeps.isSound, splitAt_composed_iff⟩
  exact ⟨fun ⟨_, hextend⟩ => ((extend_eq_ok_iff hkeeps.isSound).1 hextend).1,
    fun he => ⟨_, (extend_eq_ok_iff hkeeps.isSound).2 ⟨he, rfl⟩⟩⟩

/-- An extension with a blank item is refused, and one after it is taken over, of which one
collection is a text. -/
theorem extensions_accumulate_after_refusal :
    let start : Catalog := ⟨["misc-must"], ["m"]⟩
    let refused : Extension := ⟨.list [.str "bugprone-*", .str "\t"], .list []⟩
    let taken : Extension := ⟨.str "xy", .tuple [.str "google-*", .str "m"]⟩
    let h := History.run start [refused, taken]
    ofCollections (.list [.str "misc-must"]) (.list [.str "m"]) = .ok start ∧ h.taken = [taken] ∧
      h.catalog.required = ["misc-must", "x", "y"] ∧ h.catalog.optional = ["m", "google-*", "m"] ∧
      Text.splitAt ','.toNat h.catalog.composed.units =
        (["misc-must", "x", "y", "m", "google-*", "m"] : List RawText).map RawText.units := by
  intro start refused taken h
  have hstart : ofCollections (.list [.str "misc-must"]) (.list [.str "m"]) = .ok start :=
    ofCollections_eq_ok_iff.2 ⟨_, _, rfl, rfl, ofItems_eq_ok_iff.2 ⟨by decide, rfl⟩⟩
  have hsound : start.IsSound := ofCollections_isSound hstart
  have hrefused : ¬ refused.IsAdmissible := fun hadmissible => by
    have hblank : IsCheck (.str "\t") :=
      hadmissible.isCheck _ (by simp [refused, itemsIn, Value.items?, Value.opened])
    exact absurd hblank (by decide)
  have htaken : taken.IsAdmissible :=
    ⟨[.str "x", .str "y"], [.str "google-*", .str "m"], rfl, rfl, by decide⟩
  have hrun : h = ⟨start.adding taken, [taken]⟩ := by
    show History.step (History.step ⟨start, []⟩ refused) taken = _
    rw [History.step_of_not_isAdmissible hsound hrefused,
      History.step_of_isAdmissible hsound htaken]
    rfl
  obtain ⟨-, hrequired, hoptional, -, -, hsplit⟩ := extensions_accumulate hstart [refused, taken]
  rw [show History.run start [refused, taken] = _ from hrun] at hrequired hoptional hsplit
  rw [hrun]
  exact ⟨hstart, rfl, hrequired, hoptional, hsplit.2 (by decide)⟩

end LintRun.Catalog
