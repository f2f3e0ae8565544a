import Mathlib
import LintRun.Proofs.Failure.Outcome
import LintRun.Value.Order

/-!
# Proofs — Value — Keys in order

Which keys can be put in order, and that none is lost on the way.

* `Value.mem_of_sortKeys`: keys in order are the keys given.
* `Value.exists_sortKeys`: texts can always be put in order.
-/

namespace LintRun.Value

variable {key : Value} {keys sorted out : List Value}

/-- A text, with or without half pairs. -/
def IsText (v : Value) : Prop := v.codes?.isSome

instance (v : Value) : Decidable v.IsText := inferInstanceAs (Decidable (_ = true))

theorem isText_iff {v : Value} : v.IsText ↔ (∃ s, v = .str s) ∨ ∃ units, v = .codes units := by
  cases v <;> simp [IsText, codes?]

/-- Two texts can be compared. -/
theorem IsText.exists_precedes {a b : Value} (ha : a.IsText) (hb : b.IsText) :
    ∃ isBefore, precedes a b = .ok isBefore := by
  rcases isText_iff.1 ha with ⟨s, rfl⟩ | ⟨s, rfl⟩ <;>
    rcases isText_iff.1 hb with ⟨t, rfl⟩ | ⟨t, rfl⟩ <;> exact ⟨_, rfl⟩

/-- Sorting a key in loses none of the others. -/
theorem mem_of_insertKey (h : insertKey key sorted = .ok out) (k : Value) :
    k ∈ out ↔ k = key ∨ k ∈ sorted := by
  induction sorted generalizing out with
  | nil =>
    cases h
    simp
  | cons first rest ih =>
    rw [insertKey] at h
    obtain ⟨isBefore, -, h⟩ := Outcome.bind_eq_ok_iff.1 h
    cases isBefore with
    | true =>
      cases h
      simp
    | false =>
      obtain ⟨inserted, hi, rfl⟩ := Outcome.map_eq_ok_iff.1 h
      rw [List.mem_cons, ih hi, List.mem_cons, or_left_comm]

/-- A text can be sorted in among texts. -/
theorem exists_insertKey (hkey : key.IsText) (hsorted : ∀ k ∈ sorted, k.IsText) :
    ∃ out, insertKey key sorted = .ok out := by
  induction sorted with
  | nil => exact ⟨[key], rfl⟩
  | cons first rest ih =>
    obtain ⟨hfirst, hrest⟩ := List.forall_mem_cons.1 hsorted
    obtain ⟨isBefore, hp⟩ := hkey.exists_precedes hfirst
    obtain ⟨inserted, hi⟩ := ih hrest
    cases isBefore with
    | true => exact ⟨key :: first :: rest, by simp [insertKey, hp, bind, Except.bind]⟩
    | false => exact ⟨first :: inserted, by simp [insertKey, hp, hi, bind, Except.bind, Except.map]⟩

/-- The keys in order, from some that are in order already. -/
theorem mem_of_foldlM_insertKey
    (h : keys.foldlM (fun sorted key => insertKey key sorted) sorted =
      (.ok out : Except KindFault (List Value)))
    (k : Value) : k ∈ out ↔ k ∈ keys ∨ k ∈ sorted := by
  induction keys generalizing sorted with
  | nil =>
    cases h
    simp
  | cons key rest ih =>
    rw [List.foldlM_cons] at h
    obtain ⟨inserted, hi, h⟩ := Outcome.bind_eq_ok_iff.1 h
    rw [ih h, mem_of_insertKey hi, List.mem_cons, ← or_assoc, or_comm (a := k ∈ rest)]

/-- **Keys in order are the keys given.** -/
theorem mem_of_sortKeys (h : sortKeys keys = .ok sorted) (k : Value) : k ∈ sorted ↔ k ∈ keys := by
  rw [mem_of_foldlM_insertKey h]
  simp

/-- **Texts can always be put in order.** -/
theorem exists_sortKeys (h : ∀ k ∈ keys, k.IsText) : ∃ sorted, sortKeys keys = .ok sorted := by
  -- what is in order so far holds texts only, whatever has been put in order
  suffices ∀ sorted : List Value, (∀ k ∈ sorted, k.IsText) →
      ∃ out, keys.foldlM (fun sorted key => insertKey key sorted) sorted =
        (.ok out : Except KindFault _) from
    this [] (by simp)
  induction keys with
  | nil => exact fun sorted _ => ⟨sorted, rfl⟩
  | cons key rest ih =>
    intro sorted hsorted
    obtain ⟨hkey, hrest⟩ := List.forall_mem_cons.1 h
    obtain ⟨inserted, hi⟩ := exists_insertKey hkey hsorted
    obtain ⟨out, hout⟩ := ih hrest inserted fun k hk => by
      rcases (mem_of_insertKey hi k).1 hk with rfl | hk
      · exact hkey
      · exact hsorted k hk
    exact ⟨out, by rw [List.foldlM_cons, hi]; exact hout⟩

end LintRun.Value
