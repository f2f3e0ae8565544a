import Mathlib
import LintRun.Value.Basic

/-!
# Proofs — Value — Keys of mappings

A mapping that is built pair by pair has each text as a key at most once.

* `Value.OnceKeyed`: entries of such a mapping.
* `Value.onceKeyed_entriesOf`: entries that come from pairs.
* `Value.entriesWith`: entries with texts as keys.
* `Value.lookup?_eq_some_iff`: the value of a text key is the one that is entered with it.
-/

namespace LintRun.Value

variable {α β : Type} {k l v whole : Value} {label : Nat} {key : String}

/-! ### Entries -/

/-- No text is a key twice. -/
def OnceKeyed (entries : List (Value × α)) : Prop :=
  (entries.map Prod.fst).Pairwise fun k l => ∀ s, k = .str s → l ≠ .str s

theorem onceKeyed_nil : OnceKeyed ([] : List (Value × α)) := .nil

/-- A key in front must not be a text that is a key behind it. -/
theorem onceKeyed_cons {a : α} {rest : List (Value × α)} :
    OnceKeyed ((k, a) :: rest) ↔ (∀ s, k = .str s → ∀ e ∈ rest, e.1 ≠ .str s) ∧ OnceKeyed rest := by
  rw [OnceKeyed, List.map_cons, List.pairwise_cons, List.forall_mem_map]
  exact and_congr_left' ⟨fun h s hs e he => h e he s hs, fun h e he s hs => h s hs e he⟩

/-- A key that is entered is there, or it is put behind the others. -/
theorem keys_insertEntry (k : Value) (a : α) (entries : List (Value × α)) :
    (insertEntry k a entries).map Prod.fst = entries.map Prod.fst ∨
      (∀ l ∈ entries.map Prod.fst, sameKey l k = false) ∧
        (insertEntry k a entries).map Prod.fst = entries.map Prod.fst ++ [k] := by
  induction entries with
  | nil => exact .inr ⟨by simp, rfl⟩
  | cons first rest ih =>
    obtain ⟨l, b⟩ := first
    rw [insertEntry]
    split
    · exact .inl rfl
    · rename_i hne
      rcases ih with hsame | ⟨hnone, happend⟩
      · exact .inl (by rw [List.map_cons, hsame, List.map_cons])
      · refine .inr ⟨List.forall_mem_cons.2 ⟨by simpa using hne, hnone⟩, ?_⟩
        rw [List.map_cons, happend, List.map_cons, List.cons_append]

/-- What is entered is the new value, or was there before. -/
theorem mem_insertEntry {a : α} {entries : List (Value × α)} {e : Value × α}
    (h : e ∈ insertEntry k a entries) :
    e.2 = a ∨ e ∈ entries := by
  induction entries with
  | nil =>
    obtain rfl : e = (k, a) := by simpa [insertEntry] using h
    exact .inl rfl
  | cons first rest ih =>
    obtain ⟨l, b⟩ := first
    rw [insertEntry] at h
    split at h
    · rcases List.mem_cons.1 h with rfl | h
      · exact .inl rfl
      · exact .inr (List.mem_cons_of_mem _ h)
    · rcases List.mem_cons.1 h with rfl | h
      · exact .inr List.mem_cons_self
      · exact (ih h).imp_right (List.mem_cons_of_mem _)

/-- Nothing but the text itself is the same key as a text. -/
theorem sameKey_str_iff {v : Value} {s : String} : sameKey v (.str s) = true ↔ v = .str s := by
  have hscalar : sameScalar v (.str s) = true ↔ v = .str s := by
    unfold sameScalar
    split
    · rename_i hnumber
      cases hnumber
    · cases v <;> simp
  cases v <;> exact hscalar

/-- An entry that is put in takes the place of the one with its key. -/
theorem onceKeyed_insertEntry {entries : List (Value × α)} (h : OnceKeyed entries) (k : Value)
    (a : α) :
    OnceKeyed (insertEntry k a entries) := by
  rcases keys_insertEntry k a entries with hsame | ⟨hnone, happend⟩
  · rwa [OnceKeyed, hsame]
  -- a key that is put behind the others is no text that is there
  · rw [OnceKeyed, happend, List.pairwise_append]
    refine ⟨h, List.pairwise_singleton _ _, fun l hl k' hk' s hs => ?_⟩
    rw [List.mem_singleton.1 hk']
    rintro rfl
    cases (hs ▸ hnone l hl).symm.trans (sameKey_str_iff.2 rfl)

/-- **Entries that come from pairs have no text as a key twice.** -/
theorem onceKeyed_entriesOf (pairs : List (Value × α)) : OnceKeyed (entriesOf pairs) := by
  have hfold (entries : List (Value × α)) (h : OnceKeyed entries) :
      OnceKeyed (pairs.foldl (fun entries (k, v) => insertEntry k v entries) entries) := by
    induction pairs generalizing entries with
    | nil => exact h
    | cons pair rest ih => exact ih _ (onceKeyed_insertEntry h pair.1 pair.2)
  exact hfold [] onceKeyed_nil

/-- Every value of these entries is that of a pair. -/
theorem mem_entriesOf {pairs : List (Value × α)} {e : Value × α} (h : e ∈ entriesOf pairs) :
    ∃ pair ∈ pairs, pair.2 = e.2 := by
  have hfold (pairs entries : List (Value × α))
      (h : e ∈ pairs.foldl (fun entries (k, v) => insertEntry k v entries) entries) :
      (∃ e' ∈ entries, e'.2 = e.2) ∨ ∃ pair ∈ pairs, pair.2 = e.2 := by
    induction pairs generalizing entries with
    | nil => exact .inl ⟨e, h, rfl⟩
    | cons pair rest ih =>
      rcases ih _ h with ⟨e', he', heq⟩ | ⟨p, hp, heq⟩
      · rcases mem_insertEntry he' with ha | he'
        · exact .inr ⟨pair, List.mem_cons_self, ha.symm.trans heq⟩
        · exact .inl ⟨e', he', heq⟩
      · exact .inr ⟨p, List.mem_cons_of_mem _ hp, heq⟩
  rcases hfold pairs [] h with ⟨e', he', -⟩ | hpair
  · cases he'
  · exact hpair

/-! ### Texts as keys -/

/-- The entries of a mapping with texts as keys. -/
def entriesWith (fields : List (String × Value)) : List (Value × Value) :=
  fields.map fun (k, v) => (.str k, v)

theorem entriesWith_cons (field : String × Value) (fields : List (String × Value)) :
    entriesWith (field :: fields) = (.str field.1, field.2) :: entriesWith fields := rfl

theorem entriesWith_append (fields more : List (String × Value)) :
    entriesWith (fields ++ more) = entriesWith fields ++ entriesWith more := List.map_append

/-- Texts as keys lead to the values that they were given with. -/
theorem mem_entriesWith_iff {fields : List (String × Value)} :
    (.str key, v) ∈ entriesWith fields ↔ (key, v) ∈ fields := by
  simp [entriesWith]

/-- Fields of different names make entries that are keyed once. -/
theorem onceKeyed_entriesWith {fields : List (String × Value)} (h : (fields.map Prod.fst).Nodup) :
    OnceKeyed (entriesWith fields) := by
  rw [OnceKeyed, entriesWith, List.map_map, List.pairwise_map]
  refine (List.pairwise_map.1 h).imp fun hne s hs ht => ?_
  exact hne ((Value.str.inj hs).trans (Value.str.inj ht).symm)

section Lookup

variable {entries later : List (Value × Value)} {v w : Value}

theorem lookup?_cons_self (key : String) (v : Value) (rest : List (Value × Value)) :
    lookup? key ((.str key, v) :: rest) = some v := if_pos rfl

theorem lookup?_cons_of_ne (hk : k ≠ .str key) (v : Value) (rest : List (Value × Value)) :
    lookup? key ((k, v) :: rest) = lookup? key rest := by
  cases k with
  | str s => exact if_neg fun hs => hk (by rw [hs])
  | _ => rfl

/-- A key that is not found in the first entries is looked up in the later ones. -/
theorem lookup?_append (key : String) (entries later : List (Value × Value)) :
    lookup? key (entries ++ later) = (lookup? key entries).or (lookup? key later) := by
  induction entries with
  | nil => rfl
  | cons first rest ih =>
    obtain ⟨k, v⟩ := first
    rw [List.cons_append]
    by_cases hk : k = .str key
    · subst hk
      rw [lookup?_cons_self, lookup?_cons_self, Option.some_or]
    · rw [lookup?_cons_of_ne hk, lookup?_cons_of_ne hk, ih]

/-- What is found was entered. -/
theorem mem_of_lookup?_eq (h : lookup? key entries = some v) : (.str key, v) ∈ entries := by
  induction entries with
  | nil => cases h
  | cons first rest ih =>
    obtain ⟨k, w⟩ := first
    by_cases hk : k = .str key
    · subst hk
      rw [lookup?_cons_self] at h
      rw [Option.some.inj h]
      exact List.mem_cons_self
    · rw [lookup?_cons_of_ne hk] at h
      exact List.mem_cons_of_mem _ (ih h)

/-- Nothing is found when nothing was entered. -/
theorem lookup?_eq_none_iff : lookup? key entries = none ↔ ∀ v, (.str key, v) ∉ entries := by
  constructor
  · intro h v hmem
    obtain ⟨front, rear, rfl⟩ := List.append_of_mem hmem
    rw [lookup?_append, lookup?_cons_self] at h
    simp at h
  · intro h
    by_contra hne
    obtain ⟨v, hv⟩ := Option.ne_none_iff_exists'.1 hne
    exact h v (mem_of_lookup?_eq hv)

/-- **The value of a text key is the one that is entered with it.** -/
theorem lookup?_eq_some_iff (h : OnceKeyed entries) :
    lookup? key entries = some v ↔ (.str key, v) ∈ entries := by
  refine ⟨mem_of_lookup?_eq, fun hmem => ?_⟩
  obtain ⟨front, rear, rfl⟩ := List.append_of_mem hmem
  have hfront : lookup? key front = none := by
    refine lookup?_eq_none_iff.2 fun w hw => ?_
    rw [OnceKeyed, List.map_append, List.pairwise_append] at h
    exact h.2.2 _ (List.mem_map_of_mem hw) (.str key) (by simp) key rfl rfl
  rw [lookup?_append, hfront, lookup?_cons_self, Option.none_or]

/-- Entries of other keys do not matter to a look-up. -/
theorem lookup?_filter {p : Value × Value → Bool}
    (h : ∀ v, (.str key, v) ∈ entries → p (.str key, v) = true) :
    lookup? key (entries.filter p) = lookup? key entries := by
  induction entries with
  | nil => rfl
  | cons first rest ih =>
    obtain ⟨k, v⟩ := first
    have hrest := ih fun w hw => h w (List.mem_cons_of_mem _ hw)
    by_cases hk : k = .str key
    · subst hk
      rw [List.filter_cons_of_pos (h v List.mem_cons_self), lookup?_cons_self, lookup?_cons_self]
    · rw [lookup?_cons_of_ne hk, ← hrest, List.filter_cons]
      split
      · rw [lookup?_cons_of_ne hk]
      · rfl

theorem OnceKeyed.perm (h : OnceKeyed entries) (hperm : later.Perm entries) : OnceKeyed later :=
  ((hperm.map Prod.fst).pairwise_iff fun hkl s hl hk => hkl s hk hl).2 h

/-- The order of entries does not matter. -/
theorem lookup?_perm (h : OnceKeyed entries) (hperm : later.Perm entries) (key : String) :
    lookup? key later = lookup? key entries :=
  Option.ext fun v => by
    rw [lookup?_eq_some_iff (h.perm hperm), lookup?_eq_some_iff h, hperm.mem_iff]

end Lookup

end LintRun.Value
