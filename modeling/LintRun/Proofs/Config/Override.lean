import Mathlib
import LintRun.Proofs.Config.Assign
import LintRun.Proofs.Value.Keys

/-!
# Proofs — Config — Settings one by one

What a mapping makes of each setting depends on the value under its key alone. So the order of a
mapping does not matter, and two mappings one after the other are one.

* `Config.ext_get`: settings are the same if each of them is.
* `Config.Key.settled`: what a value becomes that a key takes.
* `Config.assignAll_eq_ok_iff`: what a mapping makes of each setting.
* `Config.assignAll_updated`: two mappings one after the other.
* `Config.override_composes_in_any_order`: the same for what a caller gives, where no value leaves a
  setting as it is.
-/

namespace LintRun.Config

variable {c c' d : Config} {key other : Key} {k v : Value} {items : List Value}
  {entries later : List (Value × Value)}

/-! ### Settings by their keys -/

/-- Lists of texts are told apart by their values. -/
theorem texts_inj {xs ys : List RawText} (h : texts xs = texts ys) : xs = ys :=
  List.map_injective_iff.2 (fun _ _ => Value.ofText_injective) (Value.tuple.inj h)

theorem optional_inj {α : Type} {f : α → Value} (hf : Function.Injective f)
    (hnull : ∀ a, f a ≠ .null) {x y : Option α} (h : (x.map f).getD .null = (y.map f).getD .null) :
    x = y := by
  cases x with
  | none =>
    cases y with
    | none => rfl
    | some b => exact absurd h.symm (hnull b)
  | some a =>
    cases y with
    | none => exact absurd h (hnull a)
    | some b => rw [hf h]

theorem ofText_ne_null (t : RawText) : Value.ofText t ≠ .null := by cases t <;> nofun

/-- **Settings are the same if each of them is.** -/
theorem ext_get (h : ∀ key, c.get key = d.get key) : c = d := by
  cases c
  cases d
  rw [Config.mk.injEq]
  exact ⟨Value.path.inj (h .productsDir), Value.ofText_injective (h .product),
    optional_inj (fun _ _ => Value.ofText_injective) ofText_ne_null (h .version),
    Value.ofText_injective (h .analyzer),
    Value.ofText_injective (h .headerFilter), texts_inj (h .sourceEndings),
    texts_inj (h .headerEndings),
    Int.ofNat.inj (Value.int.inj (h .jobs)),
    optional_inj (fun _ _ => Value.float.inj) nofun (h .timeout),
    Value.bool.inj (h .failFast), texts_inj (h .extraRequired), texts_inj (h .extraOptional),
    texts_inj (h .tags)⟩

/-- A key is found under its own text only. -/
theorem keyOf?_eq_some_iff : keyOf? k = some key ↔ k = .str key.text := by
  constructor
  · intro h
    cases k with
    | str s =>
      have htext : key.text = s := by simpa using List.find?_some h
      rw [htext]
    | _ => cases h
  · rintro rfl
    cases key <;> decide

/-- Keys are told apart by their texts. -/
theorem text_inj (h : key.text = other.text) : key = other := by
  have hkey : keyOf? (.str key.text) = some other := keyOf?_eq_some_iff.2 (by rw [h])
  exact Option.some.inj ((keyOf?_eq_some_iff.2 rfl).symm.trans hkey)

/-! ### One setting -/

/-- The texts of a list, or the one text of a text. -/
def itemTexts (v : Value) : List RawText := ((listed? v).getD []).map Value.plainText

/-- What a value becomes that a key takes. -/
def Key.settled (key : Key) (v : Value) : Value :=
  match key with
  | .productsDir => .path (.ofString v.plainText.shown)
  | .product | .analyzer | .headerFilter => .ofText v.plainText
  | .version => match v with | .null => .null | v => .ofText v.plainText
  | .sourceEndings | .headerEndings => texts ((itemTexts v).map dotted)
  | .extraRequired | .extraOptional | .tags => texts (itemTexts v)
  | .timeout => match v with | .int i => ((Binary64.ofInt? i).map Value.float).getD .null | v => v
  | .jobs | .failFast => v

theorem textOf_eq {text : RawText} (h : textOf key v = .ok text) : text = v.plainText := by
  cases v with
  | path p => exact (Except.ok.inj h).symm
  | codes units => exact (Except.ok.inj h).symm
  | str s =>
    rw [textOf] at h
    split at h
    · rw [badValue_eq] at h
      cases h
    · exact (Except.ok.inj h).symm
  | _ =>
    have hbad := badValue_eq (α := RawText) key .nonEmptyText
    cases h.symm.trans (hbad _)

/-- The texts of items are their texts as they stand. -/
theorem textsOf_eq {texts : List RawText} (h : textsOf key items = .ok texts) :
    texts = items.map Value.plainText := by
  induction items generalizing texts with
  | nil => exact (Except.ok.inj h).symm
  | cons item rest ih =>
    obtain ⟨text, htext, h⟩ := Outcome.bind_eq_ok_iff.1 h
    obtain ⟨others, hothers, h⟩ := Outcome.bind_eq_ok_iff.1 h
    rw [← Except.ok.inj h, textOf_eq htext, ih hothers, List.map_cons]

theorem textListOf_eq {texts : List RawText} (h : textListOf key v = .ok texts) :
    texts = itemTexts v := by
  rcases textListOf_cases key v with ⟨items, hlisted, htexts⟩ | ⟨-, hbad⟩
  · rw [itemTexts, hlisted]
    exact textsOf_eq (htexts.symm.trans h)
  · cases h.symm.trans hbad

/-- A count that is taken is the value. -/
theorem countOf_eq {n : Nat} (h : countOf key v = .ok n) : v = .int n ∧ 1 ≤ n := by
  cases v with
  | int i =>
    rw [countOf] at h
    split at h
    · rw [badValue_eq] at h
      cases h
    · rw [← Except.ok.inj h]
      refine ⟨congrArg Value.int ?_, ?_⟩ <;> omega
  | _ =>
    have hbad := badValue_eq (α := Nat) key .positiveInteger
    cases h.symm.trans (hbad _)

/-- A flag that is taken is the value. -/
theorem boolOf_eq {b : Bool} (h : boolOf key v = .ok b) : v = .bool b := by
  cases v with
  | bool b' => rw [Except.ok.inj h]
  | _ =>
    have hbad := badValue_eq (α := Bool) key .boolean
    cases h.symm.trans (hbad _)

/-- A number that is taken is a float as it is, or an integer above zero that is rounded to one. -/
theorem numberOf_cases {x : Binary64} (h : numberOf key v = .ok x) :
    (v = .float x ∧ x.isNonPositive = false) ∨ ∃ i, v = .int i ∧ 0 < i ∧
    Binary64.ofInt? i = some x := by
  cases v with
  | int i =>
    rw [numberOf] at h
    split at h
    · rw [badValue_eq] at h
      cases h
    · split at h
      · next y hy => exact .inr ⟨i, rfl, by omega, by rw [hy, Except.ok.inj h]⟩
      · cases h
  | float y =>
    rw [numberOf] at h
    split at h
    · rw [badValue_eq] at h
      cases h
    · next hy =>
      obtain rfl := Except.ok.inj h
      exact .inl ⟨rfl, by simpa using hy⟩
  | _ =>
    have hbad := badValue_eq (α := Binary64) key .positiveNumber
    cases h.symm.trans (hbad _)

theorem settled_version (hv : v ≠ .null) : Key.version.settled v = .ofText v.plainText := by
  cases v <;> first | exact absurd rfl hv | rfl

theorem settled_number {x : Binary64} (h : numberOf key v = .ok x) :
    Key.timeout.settled v = .float x := by
  rcases numberOf_cases h with ⟨rfl, -⟩ | ⟨i, rfl, -, hx⟩
  · rfl
  · simp [Key.settled, hx]

/-- **A setting becomes what its value is settled to.** -/
theorem get_assign (h : c.assign key v = .ok c') : c'.get key = key.settled v := by
  cases key with
  | version =>
    by_cases hv : v = .null
    · subst hv
      rw [← Except.ok.inj h]
      rfl
    · rw [assign_version c hv] at h
      obtain ⟨text, htext, rfl⟩ := Outcome.map_eq_ok_iff.1 h
      rw [textOf_eq htext, settled_version hv]
      rfl
  | timeout =>
    by_cases hv : v = .null
    · subst hv
      rw [← Except.ok.inj h]
      rfl
    · rw [assign_timeout c hv] at h
      obtain ⟨x, hx, rfl⟩ := Outcome.map_eq_ok_iff.1 h
      exact (settled_number hx).symm
  | productsDir | product | analyzer | headerFilter =>
    obtain ⟨text, htext, rfl⟩ := Outcome.map_eq_ok_iff.1 h
    rw [textOf_eq htext]
    rfl
  | sourceEndings | headerEndings | extraRequired | extraOptional | tags =>
    obtain ⟨texts, htexts, rfl⟩ := Outcome.map_eq_ok_iff.1 h
    rw [textListOf_eq htexts]
    rfl
  | jobs =>
    obtain ⟨n, hn, rfl⟩ := Outcome.map_eq_ok_iff.1 h
    exact (countOf_eq hn).1.symm
  | failFast =>
    obtain ⟨b, hb, rfl⟩ := Outcome.map_eq_ok_iff.1 h
    exact (boolOf_eq hb).symm

/-- No other setting changes. -/
theorem get_assign_of_ne (hne : other ≠ key) (h : c.assign key v = .ok c') :
    c'.get other = c.get other := by
  cases key with
  | version | timeout =>
    simp only [assign] at h
    split at h
    · rw [← Except.ok.inj h]
      cases other <;> first | rfl | exact absurd rfl hne
    · obtain ⟨a, -, rfl⟩ := Outcome.map_eq_ok_iff.1 h
      cases other <;> first | rfl | exact absurd rfl hne
  | _ =>
    obtain ⟨a, -, rfl⟩ := Outcome.map_eq_ok_iff.1 h
    cases other <;> first | rfl | exact absurd rfl hne

/-! ### A mapping -/

/-- An entry whose key names a setting and takes the value. -/
def IsSetting (entry : Value × Value) : Prop :=
  ∃ key : Key, entry.1 = .str key.text ∧ key.Takes entry.2

theorem assignEntries_cons (c : Config) (key : Key) (v : Value) (rest : List (Value × Value)) :
    assignEntries c ((.str key.text, v) :: rest) = c.assign key v >>=
      fun c => assignEntries c rest := by
  rw [assignEntries, keyOf?_eq_some_iff.2 rfl]

/-- What a configuration is given, its key takes. -/
theorem takes_of_assign (h : c.assign key v = .ok c') : key.Takes v := by
  rcases assign_settles c key v with ⟨htakes, -⟩ | ⟨-, hbad⟩ | ⟨_, _, -, hbad⟩
  · exact htakes
  · cases h.symm.trans hbad
  · cases h.symm.trans hbad

/-- Entries of known keys are taken when each of them is a setting. -/
theorem exists_assignEntries_iff (c : Config) (hkeys : ∀ k ∈ entries.map Prod.fst, ¬ IsUnknown k) :
    (∃ c', assignEntries c entries = .ok c') ↔ ∀ e ∈ entries, IsSetting e := by
  induction entries generalizing c with
  | nil => exact ⟨fun _ => by simp, fun _ => ⟨c, rfl⟩⟩
  | cons entry rest ih =>
    obtain ⟨k, v⟩ := entry
    obtain ⟨hk, hrest⟩ := List.forall_mem_cons.1 hkeys
    obtain ⟨key, hkey⟩ := Option.ne_none_iff_exists'.1 hk
    obtain rfl : k = .str key.text := keyOf?_eq_some_iff.1 hkey
    rw [assignEntries_cons, List.forall_mem_cons]
    constructor
    · rintro ⟨c', h⟩
      obtain ⟨c₁, hassign, h⟩ := Outcome.bind_eq_ok_iff.1 h
      exact ⟨⟨key, rfl, takes_of_assign hassign⟩, (ih c₁ hrest).1 ⟨c', h⟩⟩
    · rintro ⟨⟨key', hkey', htakes⟩, hsettings⟩
      obtain rfl : key = key' := text_inj (Value.str.inj hkey')
      obtain ⟨c₁, hassign⟩ := htakes.exists_assign c
      obtain ⟨c', h⟩ := (ih c₁ hrest).2 hsettings
      exact ⟨c', Outcome.bind_eq_ok_iff.2 ⟨c₁, hassign, h⟩⟩

/-- **Whether a mapping is taken** depends on each of its entries, and not on the settings
before. -/
theorem exists_assignAll_iff (c : Config) :
    (∃ c', c.assignAll entries = .ok c') ↔ ∀ e ∈ entries, IsSetting e := by
  rw [assignAll]
  rcases refuseUnknown_cases (entries.map Prod.fst) with ⟨hknown, hok⟩ |
    ⟨⟨k, hk, hunknown⟩, -, _, hbad⟩ |
      ⟨⟨k, hk, hunknown, -⟩, _, hbad⟩
  · rw [hok]
    exact exists_assignEntries_iff c hknown
  all_goals
    rw [hbad]
    constructor
    · intro h
      obtain ⟨_, h⟩ := h
      cases h
    · intro h
      obtain ⟨e, he, rfl⟩ := List.mem_map.1 hk
      obtain ⟨key, hkey, -⟩ := h e he
      rw [IsUnknown, keyOf?_eq_some_iff.2 hkey] at hunknown
      cases hunknown

theorem assignEntries_of_assignAll (h : c.assignAll entries = .ok c') :
    assignEntries c entries = .ok c' := by
  obtain ⟨-, -, h⟩ := Outcome.bind_eq_ok_iff.1 h
  exact h

/-- What a mapping asks for a setting. -/
def asked? (entries : List (Value × Value)) (key : Key) : Option Value :=
  Value.lookup? key.text entries

/-- A setting is what its value is settled to, or what it was. -/
theorem get_assignEntries (hkeys : Value.OnceKeyed entries) (h : assignEntries c entries = .ok c')
    (key : Key) :
    c'.get key = ((asked? entries key).map key.settled).getD (c.get key) := by
  induction entries generalizing c with
  | nil =>
    rw [← Except.ok.inj h]
    rfl
  | cons entry rest ih =>
    obtain ⟨k, v⟩ := entry
    obtain ⟨hk, hrest⟩ := Value.onceKeyed_cons.1 hkeys
    by_cases hkey : k = .str key.text
    · subst hkey
      rw [assignEntries_cons] at h
      obtain ⟨c₁, hassign, h⟩ := Outcome.bind_eq_ok_iff.1 h
      have hnone : asked? rest key = none :=
        Value.lookup?_eq_none_iff.2 fun w hw => hk key.text rfl _ hw rfl
      rw [ih hrest h, hnone, asked?, Value.lookup?_cons_self]
      exact get_assign hassign
    · rw [asked?, Value.lookup?_cons_of_ne hkey]
      rw [assignEntries] at h
      split at h
      · next other hother =>
        obtain ⟨c₁, hassign, h⟩ := Outcome.bind_eq_ok_iff.1 h
        have hne : key ≠ other := by
          rintro rfl
          exact hkey (keyOf?_eq_some_iff.1 hother)
        rw [← get_assign_of_ne hne hassign]
        exact ih hrest h
      · exact ih hrest h

/-- **What a mapping makes of each setting.** -/
theorem assignAll_eq_ok_iff (hkeys : Value.OnceKeyed entries) :
    c.assignAll entries = .ok c' ↔ (∀ e ∈ entries, IsSetting e) ∧
      ∀ key, c'.get key = ((asked? entries key).map key.settled).getD (c.get key) := by
  constructor
  · intro h
    exact ⟨(exists_assignAll_iff c).1 ⟨c', h⟩,
      get_assignEntries hkeys (assignEntries_of_assignAll h)⟩
  · rintro ⟨hsettings, hget⟩
    obtain ⟨d, hd⟩ := (exists_assignAll_iff c).2 hsettings
    have hsame : d = c' := ext_get fun key => by
      rw [hget, get_assignEntries hkeys (assignEntries_of_assignAll hd)]
    rw [hd, hsame]

/-- **The order of a mapping does not matter.** -/
theorem assignAll_perm (hkeys : Value.OnceKeyed entries) (hperm : later.Perm entries) :
    c.assignAll later = .ok c' ↔ c.assignAll entries = .ok c' := by
  rw [assignAll_eq_ok_iff hkeys, assignAll_eq_ok_iff (hkeys.perm hperm)]
  simp only [asked?, Value.lookup?_perm hkeys hperm, hperm.mem_iff]

/-! ### Two mappings -/

/-- A mapping with the entries of a later one in the place of its own with the same keys. -/
def updated {κ α : Type} (same : κ → κ → Bool) (entries later : List (κ × α)) : List (κ × α) :=
  entries.filter (fun e => !later.any fun l => same l.1 e.1) ++ later

theorem any_sameKey_iff {s : String} :
    (later.any fun l => Value.sameKey l.1 (.str s)) = true ↔ Value.lookup? s later ≠ none := by
  rw [Ne, Value.lookup?_eq_none_iff, not_forall, List.any_eq_true]
  constructor
  · rintro ⟨⟨k, v⟩, hmem, hk⟩
    obtain rfl := Value.sameKey_str_iff.1 hk
    exact ⟨v, not_not.2 hmem⟩
  · rintro ⟨v, hmem⟩
    exact ⟨_, not_not.1 hmem, Value.sameKey_str_iff.2 rfl⟩

/-- What later entries ask for goes before what the others ask for. -/
theorem asked?_updated (entries later : List (Value × Value)) (key : Key) :
    asked? (updated Value.sameKey entries later) key =
      (asked? later key).or (asked? entries key) := by
  rw [updated, asked?, asked?, asked?, Value.lookup?_append]
  cases hlater : Value.lookup? key.text later with
  | none =>
    have hany : (later.any fun l => Value.sameKey l.1 (.str key.text)) = false :=
      Bool.eq_false_iff.2 fun hany => any_sameKey_iff.1 hany hlater
    rw [Option.or_none, Option.none_or, Value.lookup?_filter fun v _ => by rw [hany]; rfl]
  | some w =>
    have hany : (later.any fun l => Value.sameKey l.1 (.str key.text)) = true :=
      any_sameKey_iff.2 (by rw [hlater]; nofun)
    have hnone : Value.lookup? key.text
        (entries.filter fun e => !later.any fun l => Value.sameKey l.1 e.1) = none :=
      Value.lookup?_eq_none_iff.2 fun v hv => by simpa [hany] using (List.mem_filter.1 hv).2
    rw [hnone, Option.none_or, Option.some_or]

/-- Entries that are updated are keyed once, as they were before. -/
theorem onceKeyed_updated (hentries : Value.OnceKeyed entries) (hlater : Value.OnceKeyed later) :
    Value.OnceKeyed (updated Value.sameKey entries later) := by
  rw [updated, Value.OnceKeyed, List.map_append, List.pairwise_append]
  refine ⟨hentries.sublist (List.filter_sublist.map Prod.fst), hlater, ?_⟩
  rw [List.forall_mem_map]
  intro e he
  rw [List.forall_mem_map]
  rintro l hl s hs hls
  have hany : (later.any fun l => Value.sameKey l.1 e.1) = true :=
    List.any_eq_true.2 ⟨l, hl, by rw [hs]; exact Value.sameKey_str_iff.2 hls⟩
  simpa [hany] using (List.mem_filter.1 he).2

/-- **Two mappings one after the other are one**, in which the later one wins. -/
theorem assignAll_updated (hentries : Value.OnceKeyed entries) (hlater : Value.OnceKeyed later)
    (h : c.assignAll entries = .ok c') :
    c'.assignAll later = .ok d ↔ c.assignAll (updated Value.sameKey entries later) = .ok d := by
  obtain ⟨hsettings, hget⟩ := (assignAll_eq_ok_iff hentries).1 h
  rw [assignAll_eq_ok_iff hlater, assignAll_eq_ok_iff (onceKeyed_updated hentries hlater)]
  refine and_congr ⟨fun h e he => ?_, fun h e he => h e (List.mem_append_right _ he)⟩
    (forall_congr' fun key => ?_)
  · rcases List.mem_append.1 he with he | he
    · exact hsettings e (List.mem_of_mem_filter he)
    · exact h e he
  · rw [asked?_updated, hget]
    cases asked? later key <;> rfl


/-! ### Overrides -/

variable {a b : List (String × Value)} {m : List (Value × Value)} {name : String}

def givesValue : String × Value → Bool
  | (_, .null) => false
  | _ => true

theorem givesValue_iff {e : String × Value} : givesValue e = true ↔ e.2 ≠ .null := by
  obtain ⟨k, v⟩ := e
  cases v <;> simp [givesValue]

/-- An override with the values of a later one in the place of its own. -/
def merged (a b : List (String × Value)) : List (String × Value) :=
  updated (· == ·) a (b.filter givesValue)

theorem given_eq (o : List (String × Value)) :
    given o = Value.entriesWith (o.filter givesValue) := by
  induction o with
  | nil => rfl
  | cons entry rest ih =>
    rw [given] at ih
    obtain ⟨k, v⟩ := entry
    cases v with
    | null => exact ih
    | _ => exact congrArg (_ :: ·) ih

/-- An override assigns what it gives. -/
theorem override_eq (c : Config) (o : List (String × Value)) :
    c.override o = c.assignAll (given o) := by
  rw [override, override?]
  cases given o with
  | nil => rfl
  | cons entry rest =>
    dsimp only
    cases c.assignAll (entry :: rest) <;> rfl

theorem onceKeyed_given (h : (a.map Prod.fst).Nodup) : Value.OnceKeyed (given a) := by
  rw [given_eq]
  exact Value.onceKeyed_entriesWith (h.sublist (List.filter_sublist.map Prod.fst))

theorem mem_given_iff : (.str name, v) ∈ given a ↔ (name, v) ∈ a ∧ v ≠ .null := by
  rw [given_eq, Value.mem_entriesWith_iff, List.mem_filter, givesValue_iff]

/-- What two overrides give one after the other, they give merged. -/
theorem given_merged (a b : List (String × Value)) :
    given (merged a b) = updated Value.sameKey (given a) (given b) := by
  have hsame (k s : String) : Value.sameKey (.str k) (.str s) = (k == s) := by
    rw [Bool.eq_iff_iff, Value.sameKey_str_iff, beq_iff_eq, Value.str.injEq]
  have hothers : (given a).filter (fun e => !(given b).any fun l => Value.sameKey l.1 e.1) =
      Value.entriesWith ((a.filter givesValue).filter
        fun e => !(b.filter givesValue).any fun l => l.1 == e.1) := by
    simp only [given_eq, Value.entriesWith, List.filter_map, Function.comp_def, List.any_map, hsame]
  rw [updated, hothers, given_eq b, ← Value.entriesWith_append, given_eq, merged, updated,
    List.filter_append, List.filter_filter, List.filter_filter, List.filter_filter]
  simp only [Bool.and_self, Bool.and_comm]

/-- An entry without a value has no effect, whatever its name. -/
theorem override_null (c : Config) (name : String) (front rear : List (String × Value)) :
    c.override (front ++ (name, .null) :: rear) = c.override (front ++ rear) := by
  rw [override_eq, override_eq, given, given, List.filterMap_append, List.filterMap_append]
  rfl

theorem asked?_given (ha : (a.map Prod.fst).Nodup) (hmem : (key.text, v) ∈ a) (hv : v ≠ .null) :
    asked? (given a) key = some v :=
  (Value.lookup?_eq_some_iff (onceKeyed_given ha)).2 (mem_given_iff.2 ⟨hmem, hv⟩)

theorem asked?_given_eq_none (h : ∀ v, (key.text, v) ∈ a → v = .null) :
    asked? (given a) key = none :=
  Value.lookup?_eq_none_iff.2 fun v hmem =>
    have ⟨hmem, hv⟩ := mem_given_iff.1 hmem
    hv (h v hmem)

/-- The order of an override does not matter. -/
theorem override_perm (ha : (a.map Prod.fst).Nodup) (hperm : b.Perm a) :
    c.override b = .ok d ↔ c.override a = .ok d := by
  rw [override_eq, override_eq]
  exact assignAll_perm (onceKeyed_given ha) (hperm.filterMap _)

/-- **Whether an override is taken** depends on each of its values, and not on the settings
before. -/
theorem exists_override_iff (c : Config) (o : List (String × Value)) :
    (∃ d, c.override o = .ok d) ↔
      ∀ e ∈ o, e.2 ≠ .null → ∃ key : Key, e.1 = key.text ∧ key.Takes e.2 := by
  rw [override_eq, exists_assignAll_iff, given_eq, Value.entriesWith, List.forall_mem_map]
  refine forall_congr' fun e => ?_
  rw [List.mem_filter, givesValue_iff, and_imp]
  simp only [IsSetting, Value.str.injEq]

/-- A setting that is named with a value is what the value is settled to. -/
theorem get_override_of_mem (ha : (a.map Prod.fst).Nodup) (h : c.override a = .ok d)
    (hmem : (key.text, v) ∈ a) (hv : v ≠ .null) : d.get key = key.settled v := by
  have hget := ((assignAll_eq_ok_iff (onceKeyed_given ha)).1 (override_eq c a ▸ h)).2 key
  rw [hget, asked?_given ha hmem hv]
  rfl

/-- A setting that is named without a value, or not at all, is what it was. -/
theorem get_override_of_null (ha : (a.map Prod.fst).Nodup) (h : c.override a = .ok d)
    (hnull : ∀ v, (key.text, v) ∈ a → v = .null) : d.get key = c.get key := by
  have hget := ((assignAll_eq_ok_iff (onceKeyed_given ha)).1 (override_eq c a ▸ h)).2 key
  rw [hget, asked?_given_eq_none hnull]
  rfl

/-- **Settings that a caller gives, one mapping after the other, in any order.** Each key of a
mapping is there once. A mapping is taken exactly if each of its values is given to a key that takes
it, and its order has no say in that and in what it gives. It changes the settings that it names
with a value, and no others. An override behind an override, or behind a mapping of which every
value counts, is the same as one mapping in which its values stand in the place of the others. So
each setting is the one that the caller asks for, else the one of the mapping, else what it was. An
entry without a value has no effect. -/
theorem override_composes_in_any_order (c : Config) (ha : (a.map Prod.fst).Nodup)
    (hb : (b.map Prod.fst).Nodup) (hm : Value.OnceKeyed m) :
    ((∃ d, c.override a = .ok d) ↔
      ∀ e ∈ a, e.2 ≠ .null → ∃ key : Key, e.1 = key.text ∧ key.Takes e.2) ∧
    (∀ a', a'.Perm a → ∀ d, c.override a' = .ok d ↔ c.override a = .ok d) ∧
    (∀ m', m'.Perm m → ∀ d, c.assignAll m' = .ok d ↔ c.assignAll m = .ok d) ∧
    (∀ d, c.override a = .ok d → ∀ key,
      (∀ v, (key.text, v) ∈ a → v ≠ .null → d.get key = key.settled v) ∧
      ((∀ v, (key.text, v) ∈ a → v = .null) → d.get key = c.get key)) ∧
    (∀ d, c.override a = .ok d → ∀ e, d.override b = .ok e ↔ c.override (merged a b) = .ok e) ∧
    (∀ d, c.assignAll m = .ok d → ∀ e,
      (d.override b = .ok e ↔ c.assignAll (updated Value.sameKey m (given b)) = .ok e) ∧
      (d.override b = .ok e → ∀ key,
        e.get key = (((asked? (given b) key).or (asked? m key)).map key.settled).getD
          (c.get key))) ∧
    ∀ name front rear, c.override (front ++ (name, .null) :: rear) =
      c.override (front ++ rear) := by
  have hga := onceKeyed_given ha
  have hgb := onceKeyed_given hb
  refine ⟨exists_override_iff c a, fun a' hperm d => override_perm ha hperm,
    fun m' hperm d => assignAll_perm hm hperm,
    fun d h key => ⟨fun v => get_override_of_mem ha h, get_override_of_null ha h⟩,
    fun d h e => ?_, fun d h e => ?_, override_null c⟩
  · rw [override_eq, override_eq, given_merged]
    exact assignAll_updated hga hgb (override_eq c a ▸ h)
  · have hupdated := assignAll_updated hm hgb (d := e) h
    rw [override_eq]
    refine ⟨hupdated, fun he key => ?_⟩
    have hget := ((assignAll_eq_ok_iff (onceKeyed_updated hm hgb)).1 (hupdated.1 he)).2 key
    rwa [asked?_updated] at hget

/-- Jobs from a file and from a caller, and a version behind both. -/
theorem override_composes_jobs_and_version :
    let m := Value.entriesWith [("jobs", .int 3), ("clang_version", .null)]
    let a := [("jobs", .int 4), ("unheard_of", .null)]
    let b := [("clang_version", .str "v9"), ("jobs", .null)]
    (a.map Prod.fst).Nodup ∧ (b.map Prod.fst).Nodup ∧ Value.OnceKeyed m ∧
      assignAll {} m = .ok { jobs := 3 } ∧ override {} a = .ok { jobs := 4 } ∧
      assignAll {} (updated Value.sameKey m (given b)) = .ok { jobs := 3, version := some "v9" } ∧
      override {} (merged a b) = .ok { jobs := 4, version := some "v9" } := by
  intro m a b
  have ha : (a.map Prod.fst).Nodup := by decide
  have hb : (b.map Prod.fst).Nodup := by decide
  have hm : Value.OnceKeyed m := Value.onceKeyed_entriesWith (by decide)
  have hfile : assignAll {} m = .ok { jobs := 3 } := by cbv
  have hcaller : override {} a = .ok { jobs := 4 } := by cbv
  obtain ⟨-, -, -, -, hcallers, hfiles, -⟩ := override_composes_in_any_order {} ha hb hm
  exact ⟨ha, hb, hm, hfile, hcaller, (hfiles _ hfile _).1.1 (by cbv),
    (hcallers _ hcaller _).1 (by cbv)⟩

end LintRun.Config
