import Mathlib
import LintRun.Proofs.Config.Tagged
import LintRun.Proofs.Decimal.Rounding
import LintRun.Proofs.Files.Path

/-!
# Proofs — Config — Settings in normal form

Settings that were checked one by one are taken once more as they are.

* `Config.Key.IsNormal`: the values that a key turns what it takes into.
* `Config.Reached.isNormal`: every setting that is reached has such a value.
* `Config.reached_is_well_formed_unless_nan`: so settings are what their keys ask for, but for a
  time limit that is no number.
* `Config.ListsEndings.takes_and_settled`: endings count with their dot and without.
* `Config.override_with_own_settings`: both for what a caller gives, where settings given to
  themselves change nothing.
-/

namespace LintRun.Config

variable {c c' : Config} {key : Key} {v w : Value} {items : List Value}
  {entries : List (Value × Value)}
  {s : Source} {name tag : String} {doc : Value}

/-! ### Values of settings -/

/-- The values that a key turns what it takes into. A time limit that is no number is among them. -/
def Key.IsNormal (key : Key) (v : Value) : Prop :=
  match key with
  | .productsDir => ∃ p : Path, v = .path p ∧ p.IsNormal
  | .product | .analyzer | .headerFilter => ∃ t, v = .ofText t ∧ t.units ≠ []
  | .version => v = .null ∨ ∃ t, v = .ofText t ∧ t.units ≠ []
  | .sourceEndings | .headerEndings => ∃ l, v = texts l ∧ ∀ t ∈ l, t.startsWith "." = true
  | .extraRequired | .extraOptional | .tags => ∃ l, v = texts l ∧ ∀ t ∈ l, t.units ≠ []
  | .jobs => ∃ n : Nat, v = .int n ∧ 1 ≤ n
  | .timeout => v = .null ∨ ∃ x, v = .float x ∧ x.isNonPositive = false
  | .failFast => ∃ b, v = .bool b

/-- A text starts with what is in front of it. -/
theorem startsWith_append (start t : RawText) : (start ++ t).startsWith start = true := by
  rw [RawText.startsWith, RawText.units_append, List.isPrefixOf_iff_prefix]
  exact List.prefix_append _ _

/-- Once it is dotted, an ending starts with a dot. -/
theorem startsWith_dotted (t : RawText) : (dotted t).startsWith "." = true := by
  rw [dotted]
  split
  · assumption
  · exact startsWith_append "." t

/-- An ending that starts with a dot is left as it is. -/
theorem dotted_of_startsWith {t : RawText} (h : t.startsWith "." = true) : dotted t = t := if_pos h

/-- What stands for a text stands for one that is not empty. -/
theorem plainText_ne_empty (hv : v.IsWellFormed Path.IsNormal) (h : hasText v = true) :
    v.plainText.units ≠ [] := by
  cases hv with
  | str s => simpa [Value.plainText, RawText.units, Text.codesOf, hasText] using h
  | path hp => simpa [Value.plainText, RawText.units, Text.codesOf] using Path.text_ne_empty hp
  | codes hunits =>
    -- the text of no code points is one of characters
    rw [Value.plainText, RawText.ofCodes_of_none hunits]
    rintro rfl
    cases hunits
  | _ => cases h

theorem itemTexts_eq (h : listed? v = some items) : itemTexts v = items.map Value.plainText := by
  rw [itemTexts, h, Option.getD_some]

/-- The texts of items that are taken are not empty. -/
theorem itemTexts_ne_empty (hv : v.IsWellFormed Path.IsNormal)
    (h : (match listed? v with
      | some items => items.find? fun item => !hasText item
      | none => some v) = none) :
    ∀ t ∈ itemTexts v, t.units ≠ [] := by
  cases hlisted : listed? v with
  | none =>
    rw [hlisted] at h
    cases h
  | some items =>
    rw [hlisted] at h
    rw [itemTexts_eq hlisted, List.forall_mem_map]
    intro item hitem
    have htext := List.find?_eq_none.1 h item hitem
    exact plainText_ne_empty (isWellFormed_of_listed? hv hlisted item hitem) (by simpa using htext)

/-- **What a key takes becomes a value of it.** -/
theorem Key.Takes.isNormal_settled (h : key.Takes v) (hv : v.IsWellFormed Path.IsNormal) :
    key.IsNormal (key.settled v) := by
  obtain ⟨hnone, hrange⟩ := h
  cases key with
  | productsDir => exact ⟨_, rfl, Path.isNormal_ofString _⟩
  | product | analyzer | headerFilter =>
    exact ⟨_, rfl, plainText_ne_empty hv (by simpa [offence?] using hnone)⟩
  | version =>
    by_cases hnull : v = .null
    · exact .inl (by rw [hnull, settled])
    · rw [settled_version hnull]
      have htext : hasText v = true := by
        cases v <;> first | exact absurd rfl hnull | simpa [offence?] using hnone
      exact .inr ⟨_, rfl, plainText_ne_empty hv htext⟩
  | sourceEndings | headerEndings =>
    exact ⟨_, rfl, List.forall_mem_map.2 fun s _ => startsWith_dotted s⟩
  | extraRequired | extraOptional | tags => exact ⟨_, rfl, itemTexts_ne_empty hv hnone⟩
  | jobs =>
    cases v with
    | int i =>
      have hi : 1 ≤ i := by simpa [offence?] using hnone
      exact ⟨i.toNat, congrArg Value.int (by omega), by omega⟩
    | _ => cases hnone
  | timeout =>
    cases v with
    | null => exact .inl rfl
    | float x => exact .inr ⟨x, rfl, by simpa [offence?, isAboveZero] using hnone⟩
    | int i =>
      have hi : 0 < i := by simpa [offence?, isAboveZero] using hnone
      cases hx : Binary64.ofInt? i with
      | none => exact absurd ⟨rfl, i, rfl, hi, hx⟩ hrange
      | some x =>
        exact .inr ⟨x, by rw [settled, hx]; rfl,
          (Binary64.isPositive_iff.1 (Binary64.isPositive_of_ofInt? hi hx)).1⟩
    | _ => cases hnone
  | failFast =>
    cases v with
    | bool b => exact ⟨b, rfl⟩
    | _ => cases hnone

theorem listed?_texts (l : List RawText) : listed? (texts l) = some (l.map .ofText) := rfl

/-- Texts that are made a value of are the texts that are found in it. -/
theorem itemTexts_texts (l : List RawText) : itemTexts (texts l) = l := by
  rw [itemTexts_eq (listed?_texts l), List.map_map]
  simp [Function.comp_def]

theorem units_ne_nil_of_startsWith {t : RawText} (h : t.startsWith "." = true) : t.units ≠ [] := by
  intro hnil
  rw [RawText.startsWith, hnil] at h
  cases h

/-- A text that is not empty stands for one. -/
theorem hasText_ofText {t : RawText} (h : t.units ≠ []) : hasText (.ofText t) = true := by
  cases t with
  | plain s => simpa [hasText, Value.ofText, RawText.units, Text.codesOf] using h
  | codes units hunits => rfl

theorem offence?_texts {l : List RawText} (h : ∀ t ∈ l, t.units ≠ []) :
    ((l.map Value.ofText).find? fun item => !hasText item) = none := by
  rw [List.find?_eq_none, List.forall_mem_map]
  intro t ht
  simp [hasText_ofText (h t ht)]

/-- **A value of a key is taken**, … -/
theorem Key.IsNormal.takes (h : key.IsNormal v) : key.Takes v := by
  cases key with
  | productsDir =>
    obtain ⟨p, rfl, -⟩ := h
    exact takes_of_ne (by decide) rfl
  | product | analyzer | headerFilter =>
    obtain ⟨t, rfl, ht⟩ := h
    exact takes_of_ne (by decide) (by simp [offence?, hasText_ofText ht])
  | version =>
    obtain rfl | ⟨t, rfl, ht⟩ := h
    · exact takes_of_ne (by decide) rfl
    · have hoffence : Key.version.offence? (.ofText t) = if hasText (.ofText t) then none else
          some (.ofText t) := by
        cases t <;> rfl
      exact takes_of_ne (by decide) (by rw [hoffence, if_pos (hasText_ofText ht)])
  | sourceEndings | headerEndings =>
    obtain ⟨l, rfl, hl⟩ := h
    exact takes_of_ne (by decide) (offence?_texts fun t ht => units_ne_nil_of_startsWith (hl t ht))
  | extraRequired | extraOptional | tags =>
    obtain ⟨l, rfl, hl⟩ := h
    exact takes_of_ne (by decide) (offence?_texts hl)
  | jobs =>
    obtain ⟨n, rfl, hn⟩ := h
    exact takes_of_ne (by decide) (if_pos (decide_eq_true (Int.ofNat_le.2 hn)))
  | timeout =>
    obtain rfl | ⟨x, rfl, hx⟩ := h
    · exact ⟨rfl, by rintro ⟨-, _, ⟨⟩, -⟩⟩
    · exact ⟨by simp [offence?, isAboveZero, hx], by rintro ⟨-, _, ⟨⟩, -⟩⟩
  | failFast =>
    obtain ⟨b, rfl⟩ := h
    exact takes_of_ne (by decide) rfl

/-- … **and it stays as it is.** -/
theorem Key.IsNormal.settled_eq (h : key.IsNormal v) : key.settled v = v := by
  cases key with
  | productsDir =>
    obtain ⟨p, rfl, hp⟩ := h
    exact congrArg Value.path (Path.ofString_text hp)
  | product | analyzer | headerFilter =>
    obtain ⟨t, rfl, -⟩ := h
    exact congrArg Value.ofText (Value.plainText_ofText t)
  | version =>
    obtain rfl | ⟨t, rfl, -⟩ := h
    · rfl
    · rw [settled_version (ofText_ne_null t), Value.plainText_ofText]
  | timeout => obtain rfl | ⟨_, rfl, -⟩ := h <;> rfl
  | sourceEndings | headerEndings =>
    obtain ⟨l, rfl, hl⟩ := h
    rw [settled, itemTexts_texts, List.map_congr_left fun s hs => dotted_of_startsWith (hl s hs),
      List.map_id']
  | extraRequired | extraOptional | tags =>
    obtain ⟨l, rfl, -⟩ := h
    rw [settled, itemTexts_texts]
  | jobs | failFast => rfl

/-! ### Settings that are reached -/

/-- Each setting has a value of its key. -/
def IsNormal (c : Config) : Prop := ∀ key : Key, key.IsNormal (c.get key)

theorem isNormal_default : IsNormal {} := by
  have hroot : (Path.ofString "/cvmfs/fermilab.opensciencegrid.org/products/larsoft").IsNormal :=
    Path.isNormal_ofString _
  intro key
  cases key with
  | productsDir => exact ⟨_, rfl, hroot⟩
  | product => exact ⟨"clang", rfl, by decide⟩
  | analyzer => exact ⟨"clang-tidy", rfl, by decide⟩
  | headerFilter => exact ⟨".*", rfl, by decide⟩
  | version | timeout => exact .inl rfl
  | sourceEndings | headerEndings =>
    exact ⟨_, rfl, List.forall_mem_singleton.2 (by decide)⟩
  | extraRequired | extraOptional | tags => exact ⟨[], rfl, by simp⟩
  | jobs => exact ⟨1, rfl, le_rfl⟩
  | failFast => exact ⟨_, rfl⟩

/-- A setting leaves a configuration in normal form. -/
theorem IsNormal.assign (hc : c.IsNormal) (hv : v.IsWellFormed Path.IsNormal)
    (h : c.assign key v = .ok c') : c'.IsNormal := by
  intro other
  by_cases hother : other = key
  · rw [hother, get_assign h]
    exact (takes_of_assign h).isNormal_settled hv
  · rw [get_assign_of_ne hother h]
    exact hc other

/-- Settings leave a configuration in normal form. -/
theorem IsNormal.assignEntries (hc : c.IsNormal)
    (hentries : ∀ e ∈ entries, e.2.IsWellFormed Path.IsNormal)
    (h : Config.assignEntries c entries = .ok c') : c'.IsNormal := by
  induction entries generalizing c with
  | nil => rwa [← Except.ok.inj h]
  | cons entry rest ih =>
    obtain ⟨hv, hrest⟩ := List.forall_mem_cons.1 hentries
    rw [Config.assignEntries] at h
    split at h
    · obtain ⟨c₁, hassign, h⟩ := Outcome.bind_eq_ok_iff.1 h
      exact ih (hc.assign hv hassign) hrest h
    · exact ih hc hrest h

/-- An override leaves a configuration in normal form. -/
theorem IsNormal.override {o : List (String × Value)} (hc : c.IsNormal)
    (ho : ∀ e ∈ o, e.2.IsWellFormed Path.IsNormal) (h : c.override o = .ok c') : c'.IsNormal := by
  rw [override_eq] at h
  refine hc.assignEntries (fun e he => ?_) (assignEntries_of_assignAll h)
  rw [given_eq, Value.entriesWith] at he
  obtain ⟨entry, hentry, rfl⟩ := List.mem_map.1 he
  exact ho entry (List.mem_of_mem_filter hentry)

/-- What is loaded is in normal form. -/
theorem isNormal_of_load {name : Option String} (h : Config.load s name tag = .ok c) :
    c.IsNormal := by
  obtain ⟨found, -, h⟩ := Outcome.bind_eq_ok_iff.1 h
  cases found with
  | none =>
    rw [← Except.ok.inj h]
    exact isNormal_default
  | some name =>
    obtain ⟨entries, hentry, h⟩ := Outcome.bind_eq_ok_iff.1 h
    rw [Source.entry_eq] at hentry
    obtain ⟨doc, hread, hentry⟩ := Outcome.bind_eq_ok_iff.1 hentry
    refine isNormal_default.assignEntries ?_ (assignEntries_of_assignAll h)
    rcases Source.entryIn_cases name tag doc with ⟨others, hothers, hgives | rfl⟩ |
      ⟨p, hp⟩ | ⟨_, f, hf, -⟩
    · cases hentry.symm.trans hothers
      exact fun e he => (isDocument_of_gives (isDocument_of_read hread) hgives e he).isWellFormed
    · cases hentry.symm.trans hothers
      simp
    · cases hentry.symm.trans hp
    · cases hentry.symm.trans hf

/-- Settings that come about: the defaults or those of a file, with values that a caller gives in
their places. -/
inductive Reached : Config → Prop
  | default : Reached {}
  | loaded {s : Source} {name : Option String} {tag : String} {c : Config}
      (h : Config.load s name tag = .ok c) :
    Reached c
  | overridden {c c' : Config} {o : List (String × Value)} (hc : Reached c)
    (ho : ∀ e ∈ o, e.2.IsWellFormed Path.IsNormal) (h : c.override o = .ok c') : Reached c'

/-- **Each setting that is reached has a value of its key.** -/
theorem Reached.isNormal (hc : Reached c) : c.IsNormal := by
  induction hc with
  | default => exact isNormal_default
  | loaded h => exact isNormal_of_load h
  | overridden _ ho h ih => exact ih.override ho h

/-! ### Well-formed settings -/

/-- Settings that are what their keys ask for. -/
structure IsWellFormed (c : Config) : Prop where
  jobs : 1 ≤ c.jobs
  timeout : ∀ x, c.timeout = some x → x.isPositive = true
  product : c.product.units ≠ []
  analyzer : c.analyzer.units ≠ []
  headerFilter : c.headerFilter.units ≠ []
  version : ∀ version, c.version = some version → version.units ≠ []
  sourceEndings : ∀ e ∈ c.sourceEndings, e.startsWith "." = true
  headerEndings : ∀ e ∈ c.headerEndings, e.startsWith "." = true
  extraRequired : ∀ check ∈ c.extraRequired, check.units ≠ []
  extraOptional : ∀ check ∈ c.extraOptional, check.units ≠ []
  tags : ∀ tag ∈ c.tags, tag.units ≠ []

/-- A configuration in normal form is well-formed, unless its timeout is NaN. -/
theorem IsNormal.isWellFormed (hc : c.IsNormal)
    (htimeout : ∀ x, c.timeout = some x → x.isNaN = false) :
    c.IsWellFormed := by
  have htext {t : RawText} (hkey : ∃ t', Value.ofText t = .ofText t' ∧ t'.units ≠ []) :
      t.units ≠ [] := by
    obtain ⟨t', ht, hne⟩ := hkey
    rwa [Value.ofText_injective ht]
  have htexts {p : RawText → Prop} {l : List RawText}
    (hkey : ∃ l', texts l = texts l' ∧ ∀ t ∈ l', p t) :
      ∀ t ∈ l, p t := by
    obtain ⟨l', hl, hall⟩ := hkey
    rwa [texts_inj hl]
  constructor
  case jobs =>
    obtain ⟨n, hn, hpos⟩ := hc .jobs
    have : (c.jobs : Int) = n := Value.int.inj hn
    omega
  case timeout =>
    intro x hx
    have hkey := hc .timeout
    rw [get, hx] at hkey
    obtain hnull | ⟨y, hy, hpos⟩ := hkey
    · cases hnull
    · obtain rfl : x = y := Value.float.inj hy
      exact Binary64.isPositive_iff.2 ⟨hpos, htimeout x hx⟩
  case version =>
    intro version hversion
    have hkey := hc .version
    rw [get, hversion] at hkey
    obtain hnull | hkey := hkey
    · exact absurd hnull (ofText_ne_null version)
    · exact htext hkey
  case product => exact htext (hc .product)
  case analyzer => exact htext (hc .analyzer)
  case headerFilter => exact htext (hc .headerFilter)
  case sourceEndings => exact htexts (hc .sourceEndings)
  case headerEndings => exact htexts (hc .headerEndings)
  case extraRequired => exact htexts (hc .extraRequired)
  case extraOptional => exact htexts (hc .extraOptional)
  case tags => exact htexts (hc .tags)

theorem IsNormal.withoutTimeout (hc : c.IsNormal) : IsNormal { c with timeout := none } := by
  intro key
  cases key with
  | timeout => exact .inl rfl
  | _ => exact hc _

/-- **Settings that are reached are what their keys ask for, unless the time limit is no number.**
Let settings be those of a file or the defaults, with any values in their places that were taken one
mapping after the other. They are what their keys ask for exactly if the time limit, where there is
one, is a number; all others are so in any case. -/
theorem reached_is_well_formed_unless_nan (hc : c.Reached) :
    (c.IsWellFormed ↔ ∀ x, c.timeout = some x → x.isNaN = false) ∧
    IsWellFormed { c with timeout := none } := by
  refine ⟨⟨fun h x hx => ?_, hc.isNormal.isWellFormed⟩,
    hc.isNormal.withoutTimeout.isWellFormed nofun⟩
  exact (Binary64.isPositive_iff.1 (h.timeout x hx)).2

/-- A version and a time limit of half a minute. -/
theorem reached_is_well_formed_with_timeout :
    let c : Config := { version := some "v9", timeout := Binary64.ofInt? 30 }
    c.Reached ∧ c.IsWellFormed := by
  intro c
  have hvalues : ∀ e ∈ [("clang_version", Value.str "v9"), ("timeout_seconds", Value.int 30)],
      e.2.IsWellFormed Path.IsNormal :=
    List.forall_mem_cons.2 ⟨.str "v9", List.forall_mem_singleton.2 (.int 30)⟩
  have hc : c.Reached := .overridden .default hvalues rfl
  refine ⟨hc, (reached_is_well_formed_unless_nan hc).1.2 fun x hx => ?_⟩
  exact (Binary64.isPositive_iff.1 (Binary64.isPositive_of_ofInt? (i := 30) (by decide) hx)).2

/-- **A time limit that is no number is taken.** -/
theorem reached_with_nan_timeout :
    let s := Source.holding "\x7b\"timeout_seconds\": NaN\x7d"
    let c : Config := { timeout := some Binary64.nan }
    Config.load s (some "c.json") "default" = .ok c ∧ c.Reached ∧ ¬ c.IsWellFormed := by
  intro s c
  have hdata : Json.IsData (.map (Value.entriesWith [("timeout_seconds", .float Binary64.nan)])) :=
    .map (by decide) (List.forall_mem_singleton.2 (.float fun _ => rfl))
  have hload : Config.load s (some "c.json") "default" = .ok c := by
    rw [load_eq, Source.entry_holding hdata (by decide)]
    rfl
  refine ⟨hload, .loaded hload, fun h => ?_⟩
  exact absurd (h.timeout _ rfl) (by decide)

/-! ### Settings given once more -/

/-- The values of all settings under their keys. -/
def ownSettings (c : Config) : List (String × Value) := Key.all.map fun key => (key.text, c.get key)

theorem nodup_ownSettings (c : Config) : (c.ownSettings.map Prod.fst).Nodup := by
  rw [ownSettings, List.map_map]
  exact (by decide : (Key.all.map Key.text).Nodup)

/-- The settings of a configuration are those of its keys. -/
theorem mem_ownSettings_iff {e : String × Value} :
    e ∈ c.ownSettings ↔ ∃ key : Key, e = (key.text, c.get key) := by
  have hall (key : Key) : key ∈ Key.all := by cases key <;> decide
  simp only [ownSettings, List.mem_map, hall, true_and, eq_comm]

/-- **Settings that are given to themselves stay as they are.** -/
theorem IsNormal.override_ownSettings (hc : c.IsNormal) : c.override c.ownSettings = .ok c := by
  obtain ⟨d, hd⟩ := (exists_override_iff c c.ownSettings).2 fun e he _ => by
    obtain ⟨key, rfl⟩ := mem_ownSettings_iff.1 he
    exact ⟨key, rfl, (hc key).takes⟩
  have hsame : d = c := ext_get fun key => by
    by_cases hnull : c.get key = .null
    · refine get_override_of_null (nodup_ownSettings c) hd fun v hv => ?_
      obtain ⟨other, hother⟩ := mem_ownSettings_iff.1 hv
      obtain ⟨htext, rfl⟩ := Prod.mk.inj hother
      rw [← text_inj htext, hnull]
    · rw [get_override_of_mem (nodup_ownSettings c) hd (mem_ownSettings_iff.2 ⟨key, rfl⟩) hnull]
      exact (hc key).settled_eq
  rw [hd, hsame]

/-! ### Endings with their dot and without -/

/-- The code points of a value that stands for a text. -/
def textCodes? : Value → Option Text.Codes
  | .path p => some (Text.codesOf p.text.toList)
  | v => v.codes?

/-- An ending without its dot. -/
def IsBare (e : Text.Codes) : Prop := e ≠ [] ∧ e.head? ≠ some '.'.toNat

/-- A value that stands for an ending, with its dot in front or without. -/
def Spells (v : Value) (e : Text.Codes) : Prop :=
  textCodes? v = some e ∨ textCodes? v = some ('.'.toNat :: e)

/-- A value that lists endings, each with its dot or without. -/
def ListsEndings (v : Value) (bare : List Text.Codes) : Prop :=
  ∃ items, listed? v = some items ∧ List.Forall₂ Spells items bare

/-- An ending as it is kept. -/
def endingOf (e : Text.Codes) : RawText := .ofCodes ('.'.toNat :: e)

variable {e : Text.Codes} {bare : List Text.Codes}

theorem plainText_of_textCodes? (h : textCodes? v = some e) : v.plainText = .ofCodes e := by
  cases v with
  | str s | path p =>
    obtain rfl := Option.some.inj h
    exact (RawText.ofCodes_units (.plain _)).symm
  | codes units =>
    obtain rfl := Option.some.inj h
    rfl
  | _ => cases h

theorem hasText_of_textCodes? (h : textCodes? v = some e) (he : e ≠ []) : hasText v = true := by
  cases v with
  | str s =>
    obtain rfl := Option.some.inj h
    simpa [hasText, Text.codesOf] using he
  | path p | codes units => rfl
  | _ => cases h

theorem Spells.hasText (h : Spells v e) (he : IsBare e) : hasText v = true := by
  rcases h with h | h
  · exact hasText_of_textCodes? h he.1
  · exact hasText_of_textCodes? h (List.cons_ne_nil _ _)

/-- A dot in front of an ending. -/
theorem endingOf_eq (e : Text.Codes) : endingOf e = .plain "." ++ .ofCodes e :=
  RawText.ofCodes_cons '.' e

/-- A text starts with a dot only if its code points do. -/
theorem head?_of_startsWith (h : (RawText.ofCodes e).startsWith "." = true) :
    e.head? = some '.'.toNat := by
  have hprefix : ['.'.toNat] <+: (RawText.ofCodes e).units := List.isPrefixOf_iff_prefix.1 h
  cases hchars : Text.charsOf? e with
  | none =>
    rw [RawText.ofCodes_of_none hchars] at hprefix
    obtain ⟨rest, rfl⟩ := hprefix
    rfl
  | some text =>
    obtain rfl : e.map Char.ofNat = text :=
      Option.some.inj (Option.ite_none_left_eq_some.1 hchars).2
    rw [RawText.ofCodes_of_some hchars, RawText.units, String.toList_ofList] at hprefix
    cases e with
    | nil => simp [Text.codesOf] at hprefix
    | cons n rest =>
      have hn : (Char.ofNat n).toNat = '.'.toNat := (List.cons_prefix_cons.1 hprefix).1.symm
      rw [Char.toNat_ofNat] at hn
      split at hn
      · exact congrArg some hn
      · cases hn

/-- A value that spells a bare ending stands for the ending with a dot. -/
theorem Spells.dotted_plainText (h : Spells v e) (he : IsBare e) :
    dotted v.plainText = endingOf e := by
  rcases h with h | h
  · rw [plainText_of_textCodes? h, dotted, if_neg fun hstart => he.2 (head?_of_startsWith hstart),
      endingOf_eq]
  · rw [plainText_of_textCodes? h]
    refine dotted_of_startsWith ?_
    rw [← endingOf, endingOf_eq]
    exact startsWith_append _ _

/-- **The spelling of endings does not matter.** -/
theorem ListsEndings.takes_and_settled (h : ListsEndings v bare) (hbare : ∀ e ∈ bare, IsBare e)
    (hkey : key = .sourceEndings ∨ key = .headerEndings) :
    key.Takes v ∧ key.settled v = texts (bare.map endingOf) := by
  obtain ⟨items, hlisted, hspells⟩ := h
  have hitems : (∀ item ∈ items, hasText item = true) ∧
      items.map (fun item => dotted item.plainText) = bare.map endingOf := by
    clear hlisted
    induction hspells with
    | nil => simp
    | cons hspells _ ih =>
      obtain ⟨he, hbare⟩ := List.forall_mem_cons.1 hbare
      obtain ⟨htexts, hendings⟩ := ih hbare
      refine ⟨List.forall_mem_cons.2 ⟨hspells.hasText he, htexts⟩, ?_⟩
      rw [List.map_cons, List.map_cons, hspells.dotted_plainText he, hendings]
  obtain ⟨htexts, hendings⟩ := hitems
  have hoffence : (match listed? v with
      | some items => items.find? fun item => !hasText item
      | none => some v) = none := by
    rw [hlisted]
    exact List.find?_eq_none.2 fun item hitem => by simp [htexts item hitem]
  have hsettled : (itemTexts v).map dotted = bare.map endingOf := by
    rw [itemTexts_eq hlisted, List.map_map]
    exact hendings
  rcases hkey with rfl | rfl
  all_goals exact ⟨Key.takes_of_ne (by decide) hoffence, congrArg texts hsettled⟩

theorem ListsEndings.ne_null (h : ListsEndings v bare) : v ≠ .null := by
  obtain ⟨items, hlisted, -⟩ := h
  rintro rfl
  cases hlisted

/-- Values that settle alike for a key configure alike. -/
theorem assign_congr (hv : key.Takes v) (hw : key.Takes w) (h : key.settled v = key.settled w)
    (c : Config) :
    c.assign key v = c.assign key w := by
  obtain ⟨c₁, h₁⟩ := hv.exists_assign c
  obtain ⟨c₂, h₂⟩ := hw.exists_assign c
  have hsame : c₁ = c₂ := ext_get fun other => by
    by_cases hother : other = key
    · rw [hother, get_assign h₁, get_assign h₂, h]
    · rw [get_assign_of_ne hother h₁, get_assign_of_ne hother h₂]
  rw [h₁, h₂, hsame]

/-- A value stands for another one wherever it is given. -/
theorem assignAll_congr (h : ∀ c : Config, c.assign key v = c.assign key w) (c : Config)
    (front rear : List (Value × Value)) :
    c.assignAll (front ++ (.str key.text, v) :: rear) =
      c.assignAll (front ++ (.str key.text, w) :: rear) := by
  have hentries (c : Config) : assignEntries c (front ++ (.str key.text, v) :: rear) =
      assignEntries c (front ++ (.str key.text, w) :: rear) := by
    induction front generalizing c with
    | nil => rw [List.nil_append, List.nil_append, assignEntries_cons, assignEntries_cons, h]
    | cons entry front ih =>
      rw [List.cons_append, List.cons_append, assignEntries, assignEntries]
      simp only [ih]
  rw [assignAll, assignAll, hentries]
  simp only [List.map_append, List.map_cons]

theorem given_append_cons (hv : v ≠ .null) (name : String) (front rear : List (String × Value)) :
    given (front ++ (name, v) :: rear) = given front ++ (.str name, v) :: given rear := by
  rw [given_eq, List.filter_append, List.filter_cons_of_pos (givesValue_iff.2 hv),
    Value.entriesWith_append, Value.entriesWith_cons, ← given_eq, ← given_eq]

/-- One value that is taken changes its setting, and no other. -/
theorem Key.Takes.exists_override (h : key.Takes v) (hv : v ≠ .null) (c : Config) :
    ∃ d, c.override [(key.text, v)] = .ok d ∧ d.get key = key.settled v ∧
      ∀ other, other ≠ key → d.get other = c.get other := by
  have hkeys : ([(key.text, v)].map Prod.fst).Nodup := List.nodup_singleton _
  obtain ⟨d, hd⟩ := (exists_override_iff c [(key.text, v)]).2
    (List.forall_mem_singleton.2 fun _ => ⟨key, rfl, h⟩)
  refine ⟨d, hd, get_override_of_mem hkeys hd List.mem_cons_self hv, fun other hother => ?_⟩
  refine get_override_of_null hkeys hd fun w hw => ?_
  exact absurd (text_inj (Prod.mk.inj (List.mem_singleton.1 hw)).1) hother

/-- **Settings are in normal form.** Let settings be those of a file or the defaults, with any
values in their places that were taken one mapping after the other. Given to themselves, in any
order, they stay exactly as they are. Endings that are not empty and do not start with a dot may be
given with a dot in front or without: they are taken as the same endings, and no mapping of a file
or a caller is told apart by it. -/
theorem override_with_own_settings (hc : c.Reached) :
    (∀ o, o.Perm c.ownSettings → c.override o = .ok c) ∧
    ∀ key ∈ [Key.sourceEndings, .headerEndings], ∀ bare, (∀ e ∈ bare, IsBare e) →
      ∀ v w, ListsEndings v bare → ListsEndings w bare →
        (∃ d, c.override [(key.text, v)] = .ok d ∧ d.get key = texts (bare.map endingOf) ∧
          ∀ other, other ≠ key → d.get other = c.get other) ∧
        (∀ front rear, c.override (front ++ (key.text, w) :: rear) =
          c.override (front ++ (key.text, v) :: rear)) ∧
        ∀ front rear, c.assignAll (front ++ (.str key.text, w) :: rear) =
          c.assignAll (front ++ (.str key.text, v) :: rear) := by
  refine ⟨fun o ho => (override_perm (nodup_ownSettings c) ho).2 hc.isNormal.override_ownSettings,
    ?_⟩
  intro key hkey bare hbare v w hv hw
  have hkey : key = .sourceEndings ∨ key = .headerEndings := by simpa using hkey
  obtain ⟨hvtakes, hvsettled⟩ := hv.takes_and_settled hbare hkey
  obtain ⟨hwtakes, hwsettled⟩ := hw.takes_and_settled hbare hkey
  have hcongr (c : Config) : c.assign key w = c.assign key v :=
    assign_congr hwtakes hvtakes (hwsettled.trans hvsettled.symm) c
  refine ⟨?_, fun front rear => ?_, assignAll_congr hcongr c⟩
  · obtain ⟨d, hd, hget, hothers⟩ := hvtakes.exists_override hv.ne_null c
    exact ⟨d, hd, hget.trans hvsettled, hothers⟩
  · rw [override_eq, override_eq, given_append_cons hw.ne_null, given_append_cons hv.ne_null]
    exact assignAll_congr hcongr c _ _

/-- Settings of a caller that are given to themselves from the last to the first, and two endings,
one with its dot. -/
theorem override_with_own_settings_reversed :
    let c : Config := { version := some "v9" }
    let bare := ["cc", "cxx"].map fun e => Text.codesOf e.toList
    c.Reached ∧ c.override c.ownSettings.reverse = .ok c ∧ (∀ e ∈ bare, IsBare e) ∧
      ListsEndings (.list [.str "cc", .str "cxx"]) bare ∧
      ListsEndings (.list [.str ".cc", .str "cxx"]) bare ∧
      ∃ d, c.override [("source_extensions", .list [.str "cc", .str "cxx"])] = .ok d ∧
        d.sourceEndings = [".cc", ".cxx"] ∧
        c.override [("source_extensions", .list [.str ".cc", .str "cxx"])] = .ok d := by
  intro c bare
  have hc : c.Reached := .overridden .default (List.forall_mem_singleton.2 (.str "v9"))
    (rfl : override {} [("clang_version", .str "v9")] = .ok c)
  have hbare : ∀ e ∈ bare, IsBare e := by
    simp only [IsBare]
    decide
  have hv : ListsEndings (.list [.str "cc", .str "cxx"]) bare :=
    ⟨_, rfl, .cons (.inl rfl) (.cons (.inl rfl) .nil)⟩
  have hw : ListsEndings (.list [.str ".cc", .str "cxx"]) bare :=
    ⟨_, rfl, .cons (.inr rfl) (.cons (.inl rfl) .nil)⟩
  obtain ⟨hown, hendings⟩ := override_with_own_settings hc
  obtain ⟨⟨d, hd, hget, -⟩, hsame, -⟩ := hendings .sourceEndings (by simp) bare hbare _ _ hv hw
  exact ⟨hc, hown _ (List.reverse_perm _), hbare, hv, hw, d, hd, texts_inj hget,
    (hsame [] []).trans hd⟩

/-- **An ending that is empty is refused, though the dot in front of it is taken.** -/
theorem override_refuses_empty_ending :
    RawText.startsWith "" "." = false ∧
      override {} [("source_extensions", .list [.str ("." ++ "")])] =
        .ok { sourceEndings := ["."] } ∧
      override {} [("source_extensions", .list [.str ""])] =
        report (.configuration (.badValue "source_extensions" .nonEmptyText (.str ""))) :=
  ⟨by decide, by cbv, rfl⟩

end LintRun.Config
