import Mathlib
import LintRun.Proofs.Failure.Outcome
import LintRun.Proofs.Text.Digit
import LintRun.Proofs.Text.Order
import LintRun.Toolchain.Version

/-!
# Proofs — Toolchain — Versions

Versions are totally ordered, no two of them are equal in the order, and the greatest of some
versions is selected.

* `Version.IsReadable`: no run of digits is longer than a number may be.
* `Version.exists_key_iff`: exactly the readable versions have a key.
* `Version.transCmp_compare`, `Version.lawfulEqCmp_compare`: the order of keys is total, and tells
  different keys apart.
* `Version.IsAtMost`: a version comes no later than another one.
* `Version.sort_sorts`: the versions in order.
* `Version.select_is_greatest`: what is selected, however the versions are listed.
* `Version.runs_append`, `Version.partsOf_append`: a text that is cut between two runs.
* `Version.IsRunIn`: a longest run of characters of one kind. `Version.parts_of_number`,
  `Version.parts_of_separators`: what such a run adds to the parts.
* `Version.IsBefore`: a version comes before another one.
* `Version.order_follows_numbers`: numbers decide by their size, separators do not count, and a
  version whose parts run out comes first.
-/

namespace LintRun.Version

variable {v w : String} {k l : Key} {ks : List Key} {versions : List String}

/-! ### Versions that have a key -/

/-- No run of digits is longer than a number may be. -/
def IsReadable (version : String) : Prop :=
  ∀ run, (CharKind.digit, run) ∈ runs version.toList → run.length ≤ Text.digitLimit

theorem exists_partsOf_iff (rs : List (CharKind × List Char)) :
    (∃ ps, partsOf rs = .ok ps) ↔ ∀ run, (CharKind.digit, run) ∈ rs →
    run.length ≤ Text.digitLimit := by
  induction rs with
  | nil => simp [partsOf]
  | cons r rest ih =>
    obtain ⟨kind, run⟩ := r
    cases kind with
    | separator => simp [partsOf, ih]
    | letter =>
      rw [partsOf]
      cases h : partsOf rest <;> simp [Except.map, ← ih, h]
    | digit =>
      rw [partsOf]
      split
      · next hlong => simp [hlong]
      · next hshort => cases h : partsOf rest <;> simp_all [Except.map]

/-- **Exactly the readable versions have a key.** -/
theorem exists_key_iff (version : String) : (∃ k, key version = .ok k) ↔ IsReadable version := by
  rw [IsReadable, ← exists_partsOf_iff, key, parts]
  cases partsOf (runs version.toList) <;> simp [Except.map]

theorem raw_of_key {version : String} {k : Key} (h : key version = .ok k) : k.raw = version := by
  rw [key] at h
  cases hp : parts version with
  | error f => simp [hp, Except.map] at h
  | ok ps =>
    simp only [hp, Except.map, Except.ok.injEq] at h
    rw [← h]

/-- The keys of readable versions, one for each. -/
theorem exists_keys {versions : List String} (h : ∀ v ∈ versions, IsReadable v) :
    ∃ ks, keys versions = .ok ks ∧ ks.map Key.raw = versions := by
  induction versions with
  | nil => exact ⟨[], rfl, rfl⟩
  | cons v rest ih =>
    obtain ⟨k, hk⟩ := (exists_key_iff v).2 (h v List.mem_cons_self)
    obtain ⟨ks, hks, hraw⟩ := ih fun w hw => h w (List.mem_cons_of_mem v hw)
    refine ⟨k :: ks, ?_, by rw [List.map_cons, raw_of_key hk, hraw]⟩
    rw [keys, hk, hks]
    rfl

/-! ### The order of keys -/

instance transCmp_comparePart : Std.TransCmp comparePart where
  eq_swap {p q} := by
    cases p <;> cases q <;> simp only [comparePart]
    case letters.letters => exact Std.OrientedCmp.eq_swap
    case number.number => exact Std.OrientedOrd.eq_swap
    all_goals rfl
  isLE_trans {p q r} hpq hqr := by
    cases p <;> cases q <;> cases r <;> simp only [comparePart] at *
    case letters.letters.letters => exact Std.TransCmp.isLE_trans hpq hqr
    case number.number.number => exact Std.TransOrd.isLE_trans hpq hqr
    all_goals first | contradiction | rfl

instance lawfulEqCmp_comparePart : Std.LawfulEqCmp comparePart where
  compare_self {p} := by
    cases p with
    | letters run => exact Std.ReflCmp.compare_self
    | number n => exact Std.ReflOrd.compare_self
  eq_of_compare {p q} h := by
    cases p <;> cases q <;> simp only [comparePart] at h
    case letters.letters => exact congrArg Part.letters (Std.LawfulEqCmp.eq_of_compare h)
    case number.number => exact congrArg Part.number (Std.LawfulEqOrd.eq_of_compare h)
    all_goals contradiction

theorem compareParts_eq (ps qs : List Part) :
    compareParts ps qs = List.compareLex comparePart ps qs := by
  induction ps generalizing qs with
  | nil => cases qs <;> rfl
  | cons p ps ih =>
    cases qs with
    | nil => rfl
    | cons q qs => rw [compareParts, List.compareLex_cons_cons, ih]

instance transCmp_compareParts : Std.TransCmp compareParts := by
  rw [show compareParts = List.compareLex comparePart from funext₂ compareParts_eq]
  infer_instance

instance lawfulEqCmp_compareParts : Std.LawfulEqCmp compareParts := by
  rw [show compareParts = List.compareLex comparePart from funext₂ compareParts_eq]
  infer_instance

theorem isLE_compare_iff :
    (k.compare l).isLE = true ↔
      compareParts k.parts l.parts = .lt ∨
        compareParts k.parts l.parts = .eq ∧
        (Text.compareCodes k.raw.toList l.raw.toList).isLE = true := by
  rw [Key.compare]
  cases compareParts k.parts l.parts <;> simp

/-- Keys are ordered by their parts, then by their texts. -/
instance transCmp_compare : Std.TransCmp Key.compare where
  eq_swap {k l} := by
    rw [Key.compare, Key.compare, Ordering.swap_then, ← Std.OrientedCmp.eq_swap,
      ← Std.OrientedCmp.eq_swap]
  isLE_trans {k l m} hkl hlm := by
    rw [isLE_compare_iff] at *
    rcases hkl with hkl | ⟨hkl, hraw⟩ <;> rcases hlm with hlm | ⟨hlm, hraw'⟩
    · exact .inl (Std.TransCmp.lt_trans hkl hlm)
    · exact .inl (Std.TransCmp.lt_of_lt_of_eq hkl hlm)
    · exact .inl (Std.TransCmp.lt_of_eq_of_lt hkl hlm)
    · exact .inr ⟨Std.TransCmp.eq_trans hkl hlm, Std.TransCmp.isLE_trans hraw hraw'⟩

/-- **Keys that are equal in the order are the same.** -/
instance lawfulEqCmp_compare : Std.LawfulEqCmp Key.compare where
  compare_self {k} := by
    exact Ordering.then_eq_eq.2 ⟨Std.ReflCmp.compare_self, Std.ReflCmp.compare_self⟩
  eq_of_compare {k l} h := by
    obtain ⟨hparts, hraw⟩ := Ordering.then_eq_eq.1 h
    obtain ⟨parts, raw⟩ := k
    obtain ⟨parts', raw'⟩ := l
    obtain rfl : parts = parts' := Std.LawfulEqCmp.eq_of_compare hparts
    obtain rfl : raw = raw' := String.toList_injective (Std.LawfulEqCmp.eq_of_compare hraw)
    rfl

theorem le_eq (k l : Key) : k.le l = (k.compare l).isLE := by
  rw [Key.le]
  cases k.compare l <;> rfl

theorem le_refl (k : Key) : k.le k = true := by
  rw [le_eq]
  exact Std.ReflCmp.isLE_rfl

theorem le_trans {m : Key} (hkl : k.le l = true) (hlm : l.le m = true) : k.le m = true := by
  rw [le_eq] at *
  exact Std.TransCmp.isLE_trans hkl hlm

theorem le_total (k l : Key) : k.le l = true ∨ l.le k = true := by
  have hswap : l.compare k = (k.compare l).swap := Std.OrientedCmp.eq_swap
  rw [le_eq, le_eq, hswap]
  cases k.compare l <;> simp

theorem le_antisymm (hkl : k.le l = true) (hlk : l.le k = true) : k = l := by
  rw [le_eq] at *
  exact Std.LawfulEqCmp.eq_of_compare (Std.OrientedCmp.isLE_antisymm hkl hlk)

/-! ### The order of versions -/

/-- A version comes no later than another one. -/
def IsAtMost (v w : String) : Prop := ∃ k l, key v = .ok k ∧ key w = .ok l ∧ k.le l = true

/-- **Different versions have different keys.** -/
theorem eq_of_key (hv : key v = .ok k) (hw : key w = .ok k) : v = w := by
  rw [← raw_of_key hv, raw_of_key hw]

theorem IsAtMost.antisymm (h : IsAtMost v w) (h' : IsAtMost w v) : v = w := by
  obtain ⟨k, l, hv, hw, hkl⟩ := h
  obtain ⟨l', k', hw', hv', hlk⟩ := h'
  obtain rfl : k = k' := Except.ok.inj (hv.symm.trans hv')
  obtain rfl : l = l' := Except.ok.inj (hw.symm.trans hw')
  obtain rfl := le_antisymm hkl hlk
  exact eq_of_key hv hw

/-- The keys of versions are those of each of them. -/
theorem key_raw_of_mem (h : keys versions = .ok ks) (hk : k ∈ ks) : key k.raw = .ok k := by
  induction versions generalizing ks with
  | nil =>
    obtain rfl : [] = ks := Except.ok.inj h
    cases hk
  | cons v rest ih =>
    obtain ⟨first, hfirst, h⟩ := Outcome.bind_eq_ok_iff.1 h
    obtain ⟨others, hothers, h⟩ := Outcome.bind_eq_ok_iff.1 h
    obtain rfl := Except.ok.inj h
    rcases List.mem_cons.1 hk with rfl | hk
    · rwa [raw_of_key hfirst]
    · exact ih hothers hk

theorem isAtMost_raw (h : keys versions = .ok ks) (hk : k ∈ ks) (hl : l ∈ ks)
    (hkl : k.le l = true) :
    IsAtMost k.raw l.raw :=
  ⟨k, l, key_raw_of_mem h hk, key_raw_of_mem h hl, hkl⟩

/-- **The versions in order.** -/
theorem sort_sorts (h : ∀ v ∈ versions, IsReadable v) :
    ∃ sorted, sort versions = .ok sorted ∧ sorted.Perm versions ∧ sorted.Pairwise IsAtMost := by
  obtain ⟨ks, hks, hraw⟩ := exists_keys h
  have hperm : (ks.mergeSort Key.le).Perm ks := List.mergeSort_perm ks Key.le
  refine ⟨(ks.mergeSort Key.le).map Key.raw, by rw [sort, hks]; rfl, hraw ▸ hperm.map Key.raw, ?_⟩
  have htrans (k l m : Key) (hkl : k.le l = true) (hlm : l.le m = true) : k.le m = true :=
    le_trans hkl hlm
  have htotal (k l : Key) : (k.le l || l.le k) = true := Bool.or_eq_true_iff.2 (le_total k l)
  have hsorted : (ks.mergeSort Key.le).Pairwise fun k l => k.le l = true :=
    List.pairwise_mergeSort htrans htotal ks
  refine List.pairwise_map.2 (hsorted.imp_of_mem fun {k l} hk hl hkl => ?_)
  exact isAtMost_raw hks (hperm.mem_iff.1 hk) (hperm.mem_iff.1 hl) hkl

/-! ### The greatest version -/

theorem greatest_mem (best : Key) (ks : List Key) : greatest best ks ∈ best :: ks := by
  induction ks generalizing best with
  | nil => exact List.mem_cons_self
  | cons k rest ih =>
    rw [greatest]
    by_cases hk : best.le k = true
    · rw [if_pos hk]
      exact List.mem_cons_of_mem best (ih k)
    · rw [if_neg hk]
      rcases List.mem_cons.1 (ih best) with hbest | hrest
      · exact List.mem_cons.2 (.inl hbest)
      · exact List.mem_cons_of_mem best (List.mem_cons_of_mem k hrest)

/-- No key is greater than the greatest. -/
theorem le_greatest (best : Key) (ks : List Key) :
    ∀ k ∈ best :: ks, k.le (greatest best ks) = true := by
  induction ks generalizing best with
  | nil => exact List.forall_mem_singleton.2 (le_refl best)
  | cons next rest ih =>
    -- the greater of the first two is the one that is kept
    obtain ⟨kept, hkept, hbest, hnext⟩ : ∃ kept, (if best.le next then next else best) = kept ∧
        best.le kept = true ∧ next.le kept = true := by
      by_cases h : best.le next = true
      · exact ⟨next, if_pos h, h, le_refl next⟩
      · exact ⟨best, if_neg h, le_refl best, (le_total best next).resolve_left h⟩
    rw [greatest, hkept]
    have hgreatest : kept.le (greatest kept rest) = true := ih kept kept List.mem_cons_self
    refine List.forall_mem_cons.2 ⟨le_trans hbest hgreatest,
      List.forall_mem_cons.2 ⟨le_trans hnext hgreatest, ?_⟩⟩
    exact fun k hk => ih kept k (List.mem_cons_of_mem kept hk)

/-- A version that comes no earlier than any of some versions, and is one of them. -/
structure IsGreatest (v : String) (versions : List String) : Prop where
  mem : v ∈ versions
  isAtMost : ∀ w ∈ versions, IsAtMost w v

theorem IsGreatest.unique (h : IsGreatest v versions) (h' : IsGreatest w versions) : v = w :=
  (h'.isAtMost v h.mem).antisymm (h.isAtMost w h'.mem)

theorem exists_select_isGreatest (hne : versions ≠ []) (h : ∀ v ∈ versions, IsReadable v) :
    ∃ v, select versions = .ok v ∧ IsGreatest v versions := by
  obtain ⟨ks, hks, hraw⟩ := exists_keys h
  cases ks with
  | nil => exact absurd hraw.symm hne
  | cons k rest =>
    have hmem : greatest k rest ∈ k :: rest := greatest_mem k rest
    refine ⟨(greatest k rest).raw, by rw [select, hks], ?_, ?_⟩
    · rw [← hraw]
      exact List.mem_map_of_mem hmem
    · rw [← hraw]
      exact List.forall_mem_map.2 fun l hl => isAtMost_raw hks hl hmem (le_greatest k rest l hl)

/-- **Of readable versions, if there are any, one is selected.** -/
theorem exists_select (hne : versions ≠ []) (h : ∀ v ∈ versions, IsReadable v) :
    ∃ v ∈ versions, select versions = .ok v := by
  obtain ⟨v, hselect, hv⟩ := exists_select_isGreatest hne h
  exact ⟨v, hv.mem, hselect⟩

/-- The last of versions in order is the greatest. -/
theorem IsGreatest.getLast? (h : IsGreatest v versions) (hsorted : versions.Pairwise IsAtMost) :
    versions.getLast? = some v := by
  obtain ⟨front, last, rfl⟩ : ∃ front last, versions = front ++ [last] :=
    ⟨_, _, (List.dropLast_append_getLast (List.ne_nil_of_mem h.mem)).symm⟩
  have hlast : IsAtMost last v := h.isAtMost last (by simp)
  have hfront := (List.pairwise_append.1 hsorted).2.2
  rw [List.getLast?_append_of_ne_nil _ (by simp), List.getLast?_singleton]
  rcases List.mem_append.1 h.mem with hv | hv
  · rw [hlast.antisymm (hfront v hv last (by simp))]
  · rw [List.mem_singleton.1 hv]

/-- **The greatest version is selected, however the versions are listed.** Of versions whose numbers
are not too long, if there are any, the one that is selected is one of them, and none of them comes
later. It is the last of the versions in order, and it is selected from every list of the same
versions, in any order and with any repetitions, since no two versions have the same key. -/
theorem select_is_greatest (hne : versions ≠ []) (h : ∀ v ∈ versions, IsReadable v) :
    ∃ v, select versions = .ok v ∧ v ∈ versions ∧ (∀ w ∈ versions, IsAtMost w v) ∧
      (∃ sorted, sort versions = .ok sorted ∧ sorted.Perm versions ∧ sorted.Pairwise IsAtMost ∧
        sorted.getLast? = some v) ∧
      (∀ others : List String, (∀ w, w ∈ others ↔ w ∈ versions) → select others = .ok v) ∧
      ∀ w w' k, key w = .ok k → key w' = .ok k → w = w' := by
  obtain ⟨v, hselect, hv⟩ := exists_select_isGreatest hne h
  obtain ⟨sorted, hsort, hperm, hsorted⟩ := sort_sorts h
  have hv' : IsGreatest v sorted :=
    ⟨hperm.mem_iff.2 hv.mem, fun w hw => hv.isAtMost w (hperm.mem_iff.1 hw)⟩
  refine ⟨v, hselect, hv.mem, hv.isAtMost, ⟨sorted, hsort, hperm, hsorted, hv'.getLast? hsorted⟩,
    ?_, fun w w' k => eq_of_key⟩
  intro others hothers
  have hne' : others ≠ [] := List.ne_nil_of_mem ((hothers v).2 hv.mem)
  obtain ⟨w, hselect', hw⟩ := exists_select_isGreatest hne' fun w hw => h w ((hothers w).1 hw)
  have hw' : IsGreatest w versions :=
    ⟨(hothers w).1 hw.mem, fun u hu => hw.isAtMost u ((hothers u).2 hu)⟩
  rw [hselect', hv.unique hw']

/-- Of a tenth, a ninth and a second version, and of one of them that is written otherwise, the
tenth is selected. -/
theorem select_is_greatest_tenth :
    (∀ v ∈ ["v9_2", "v10_0", "v2", "v10.0", "v9_2"], IsReadable v) ∧
      select ["v9_2", "v10_0", "v2", "v10.0", "v9_2"] = .ok "v10_0" ∧ IsAtMost "v10.0" "v10_0" := by
  have hreadable : ∀ v ∈ ["v9_2", "v10_0", "v2", "v10.0", "v9_2"], IsReadable v := by
    simp only [List.forall_mem_cons, List.not_mem_nil, false_implies, implies_true, and_true,
      ← exists_key_iff]
    exact ⟨⟨_, rfl⟩, ⟨_, rfl⟩, ⟨_, rfl⟩, ⟨_, rfl⟩, ⟨_, rfl⟩⟩
  obtain ⟨v, hselect, -, hv, -⟩ := select_is_greatest (by decide) hreadable
  have hten : select ["v9_2", "v10_0", "v2", "v10.0", "v9_2"] = .ok "v10_0" := by cbv
  obtain rfl : v = "v10_0" := Except.ok.inj (hselect.symm.trans hten)
  exact ⟨hreadable, hten, hv "v10.0" (by simp)⟩

/-! ### Cutting a text between two runs -/

variable {kind : CharKind} {text front back run : List Char}

/-- A character goes on with the run behind it, or stands alone in front of it. -/
theorem runs_cons {others : List (CharKind × List Char)} (h : runs text = (kind, run) :: others)
    (c : Char) :
    runs (c :: text) =
      if kindOf c = kind then (kind, c :: run) :: others else
        (kindOf c, [c]) :: (kind, run) :: others := by
  rw [runs, h]

/-- The first run of a text is of the kind of its first character. -/
theorem exists_runs_cons (c : Char) (text : List Char) :
    ∃ run others, runs (c :: text) = (kindOf c, run) :: others := by
  cases hruns : runs text with
  | nil => exact ⟨_, _, by rw [runs, hruns]⟩
  | cons r others =>
    rw [runs_cons hruns]
    split
    · next hkind => exact ⟨_, _, by rw [hkind]⟩
    · exact ⟨_, _, rfl⟩

/-- No run goes on where the kind changes. -/
def IsCut (front back : List Char) : Prop :=
  ∀ c ∈ front.getLast?, ∀ d ∈ back.head?, kindOf c ≠ kindOf d

/-- **The runs of a text that is cut where the kind changes** are those of its two pieces. -/
theorem runs_append (h : IsCut front back) : runs (front ++ back) = runs front ++ runs back := by
  induction front with
  | nil => rfl
  | cons c front ih =>
    cases front with
    | nil =>
      cases back with
      | nil => rw [List.append_nil, runs, List.append_nil]
      | cons d back =>
        -- the run behind the cut is of another kind, so the last character of the front stays alone
        obtain ⟨run, others, hruns⟩ := exists_runs_cons d back
        rw [List.singleton_append, runs_cons hruns, if_neg (h c rfl d rfl), hruns]
        rfl
    | cons next front =>
      have hcut : IsCut (next :: front) back := fun e he => h e (by rwa [List.getLast?_cons_cons])
      obtain ⟨run, others, hruns⟩ := exists_runs_cons next front
      have hboth : runs (next :: front ++ back) = (kindOf next, run) :: (others ++ runs back) := by
        rw [ih hcut, hruns, List.cons_append]
      rw [List.cons_append, runs_cons hboth, runs_cons hruns]
      split <;> rfl

/-- The runs of a text of one kind. -/
theorem runs_of_kind (hne : run ≠ []) (h : ∀ c ∈ run, kindOf c = kind) :
    runs run = [(kind, run)] := by
  induction run with
  | nil => exact absurd rfl hne
  | cons c rest ih =>
    obtain ⟨hc, hrest⟩ := List.forall_mem_cons.1 h
    cases rest with
    | nil => rw [runs, runs, hc]
    | cons next rest => rw [runs_cons (ih (List.cons_ne_nil _ _) hrest), if_pos hc]

/-- The parts of two series of runs, one behind the other. -/
theorem partsOf_append (rs rs' : List (CharKind × List Char)) :
    partsOf (rs ++ rs') = (partsOf rs).bind fun ps => (partsOf rs').map (ps ++ ·) := by
  induction rs with
  | nil =>
    rw [List.nil_append, partsOf]
    cases partsOf rs' <;> rfl
  | cons r rs ih =>
    obtain ⟨kind, run⟩ := r
    cases kind with
    | separator => exact ih
    | letter =>
      rw [List.cons_append, partsOf, partsOf, ih]
      cases partsOf rs with
      | error f => rfl
      | ok ps => cases partsOf rs' <;> rfl
    | digit =>
      rw [List.cons_append, partsOf, partsOf, ih]
      split
      · rfl
      · cases partsOf rs with
        | error f => rfl
        | ok ps => cases partsOf rs' <;> rfl

/-! ### Longest runs -/

/-- A longest run of characters of one kind, between two texts. -/
structure IsRunIn (kind : CharKind) (before run after : String) : Prop where
  nonempty : run ≠ ""
  chars : ∀ c ∈ run.toList, kindOf c = kind
  starts : ∀ c ∈ before.toList.getLast?, kindOf c ≠ kind
  ends : ∀ c ∈ after.toList.head?, kindOf c ≠ kind

instance (kind : CharKind) (before run after : String) :
    Decidable (IsRunIn kind before run after) :=
  decidable_of_iff (run ≠ "" ∧ (run.toList.all fun c => kindOf c = kind) = true ∧
      (before.toList.getLast?.all fun c => kindOf c ≠ kind) = true ∧
      (after.toList.head?.all fun c => kindOf c ≠ kind) = true)
    ⟨fun ⟨hne, hchars, hstarts, hends⟩ =>
      ⟨hne, by simpa using hchars, by simpa [Option.all_eq_true] using hstarts,
        by simpa [Option.all_eq_true] using hends⟩,
      fun h => ⟨h.nonempty, by simpa using h.chars, by simpa [Option.all_eq_true] using h.starts,
        by simpa [Option.all_eq_true] using h.ends⟩⟩

variable {before after word : String}

/-- **A longest run is one of the runs of the whole text**, whatever stands before and after it. -/
theorem IsRunIn.runs_eq (h : IsRunIn kind before word after) :
    runs (before ++ word ++ after).toList = runs before.toList ++ (kind, word.toList) ::
      runs after.toList := by
  have hne : word.toList ≠ [] := fun hnil => h.nonempty (String.toList_eq_nil_iff.1 hnil)
  have hback : IsCut word.toList after.toList := fun c hc d hd => by
    rw [h.chars c (List.mem_of_getLast? hc)]
    exact (h.ends d hd).symm
  have hfront : IsCut before.toList (word.toList ++ after.toList) := fun c hc d hd => by
    rw [List.head?_append_of_ne_nil _ hne] at hd
    rw [h.chars d (List.mem_of_head? hd)]
    exact h.starts c hc
  rw [String.toList_append, String.toList_append, List.append_assoc, runs_append hfront,
    runs_append hback, runs_of_kind hne h.chars]
  rfl

/-- Separators add no part. -/
theorem parts_of_separators (h : IsRunIn .separator before word after) :
    parts (before ++ word ++ after) = (parts before).bind
      fun ps => (parts after).map (ps ++ ·) := by
  rw [parts, h.runs_eq, partsOf_append, partsOf]
  rfl

/-- Digits add their number, if the whole text has parts. -/
theorem parts_of_number {all : List Part} (h : IsRunIn .digit before word after)
    (hall : parts (before ++ word ++ after) = .ok all) :
    ∃ ps qs, parts before = .ok ps ∧ all = ps ++ .number (Text.numberOf 10 word.toList) :: qs := by
  rw [parts, h.runs_eq, partsOf_append] at hall
  obtain ⟨ps, hps, hrest⟩ := Outcome.bind_eq_ok_iff.1 hall
  obtain ⟨rest, hdigits, rfl⟩ := Outcome.map_eq_ok_iff.1 hrest
  rw [partsOf] at hdigits
  split at hdigits
  · cases hdigits
  · obtain ⟨qs, -, rfl⟩ := Outcome.map_eq_ok_iff.1 hdigits
    exact ⟨ps, qs, hps, rfl⟩

/-! ### The first difference -/

/-- Parts that two versions start with have no say. -/
theorem compareParts_append (ps qs qs' : List Part) :
    compareParts (ps ++ qs) (ps ++ qs') = compareParts qs qs' := by
  induction ps with
  | nil => rfl
  | cons p ps ih =>
    have hsame : comparePart p p = .eq := Std.ReflCmp.compare_self
    rw [List.cons_append, List.cons_append, compareParts, hsame, ih]
    rfl

/-- Parts that run out come first. -/
theorem compareParts_of_isPrefix {ps qs : List Part} (h : ps <+: qs) (hne : ps ≠ qs) :
    compareParts ps qs = .lt := by
  obtain ⟨rest, rfl⟩ := h
  cases rest with
  | nil => exact absurd (List.append_nil ps).symm hne
  | cons q rest =>
    have hrun := compareParts_append ps [] (q :: rest)
    rwa [List.append_nil] at hrun

/-- A version comes before another one. -/
def IsBefore (v w : String) : Prop := ∃ k l, key v = .ok k ∧ key w = .ok l ∧ k.compare l = .lt

/-- The parts of two versions tell which one comes first, if they differ in the order. -/
theorem isBefore_of_parts {ps qs : List Part} (hv : parts v = .ok ps) (hw : parts w = .ok qs)
    (h : compareParts ps qs = .lt) : IsBefore v w := by
  refine ⟨⟨ps, v⟩, ⟨qs, w⟩, by rw [key, hv]; rfl, by rw [key, hw]; rfl, ?_⟩
  rw [Key.compare, h]
  rfl

theorem exists_parts (h : IsReadable v) : ∃ ps, parts v = .ok ps :=
  (exists_partsOf_iff (runs v.toList)).2 h

/-- A smaller number in the place of the first difference. -/
theorem isBefore_of_number {p d d' s s' : String} (h : IsRunIn .digit p d s)
    (h' : IsRunIn .digit p d' s') (hlt : Text.numberOf 10 d.toList < Text.numberOf 10 d'.toList)
    (hread : IsReadable (p ++ d ++ s)) (hread' : IsReadable (p ++ d' ++ s')) :
    IsBefore (p ++ d ++ s) (p ++ d' ++ s') := by
  obtain ⟨all, hall⟩ := exists_parts hread
  obtain ⟨all', hall'⟩ := exists_parts hread'
  obtain ⟨ps, qs, hps, rfl⟩ := parts_of_number h hall
  obtain ⟨ps', qs', hps', rfl⟩ := parts_of_number h' hall'
  obtain rfl : ps = ps' := Except.ok.inj (hps.symm.trans hps')
  refine isBefore_of_parts hall hall' ?_
  rw [compareParts_append, compareParts, comparePart, Nat.compare_eq_lt.2 hlt]
  rfl

/-- **The order of versions follows the numbers in them.** Versions that are alike in front of a
number come in the order of their numbers there, whatever stands behind these and with however many
zeros they start. The digits are all that there are in this place, and no run of digits in the
versions is too long to be read. A longest run of separators can be replaced by any other one, and
the parts of the version stay what they are. A version whose parts are the first ones of another
version, and not all of them, comes before it. -/
theorem order_follows_numbers :
    (∀ p d d' s s' : String, IsRunIn .digit p d s → IsRunIn .digit p d' s' →
      Text.numberOf 10 d.toList < Text.numberOf 10 d'.toList →
      IsReadable (p ++ d ++ s) → IsReadable (p ++ d' ++ s') →
      IsBefore (p ++ d ++ s) (p ++ d' ++ s')) ∧
    (∀ p r r' s : String, IsRunIn .separator p r s → IsRunIn .separator p r' s →
      parts (p ++ r ++ s) = parts (p ++ r' ++ s)) ∧
    ∀ v w ps qs, parts v = .ok ps → parts w = .ok qs → ps <+: qs → ps ≠ qs → IsBefore v w := by
  refine ⟨fun p d d' s s' => isBefore_of_number, fun p r r' s h h' => ?_,
    fun v w ps qs hv hw hprefix hne => ?_⟩
  · rw [parts_of_separators h, parts_of_separators h']
  · exact isBefore_of_parts hv hw (compareParts_of_isPrefix hprefix hne)

/-- A ninth version comes before a tenth one that is written with a zero in front, separators are
exchanged, and a version comes before its own patches. -/
theorem order_follows_numbers_tenth :
    IsBefore ("v" ++ "9" ++ "z") ("v" ++ "010" ++ "_1") ∧
    parts ("v1" ++ "_" ++ "0") = parts ("v1" ++ ".-" ++ "0") ∧
      IsBefore "v1" "v1_0" := by
  obtain ⟨hnumbers, hseparators, hprefix⟩ := order_follows_numbers
  have hread : IsReadable ("v" ++ "9" ++ "z") := (exists_key_iff _).1 ⟨_, rfl⟩
  have hread' : IsReadable ("v" ++ "010" ++ "_1") := (exists_key_iff _).1 ⟨_, rfl⟩
  exact ⟨hnumbers "v" "9" "010" "z" "_1" (by decide) (by decide) (by decide) hread hread',
    hseparators "v1" "_" ".-" "0" (by decide) (by decide),
    hprefix "v1" "v1_0" [.letters ['v'], .number 1] [.letters ['v'], .number 1,
      .number 0] rfl rfl (by decide)
      (by decide)⟩

end LintRun.Version
