import Mathlib
import LintRun.Text.Blank

/-!
# Proofs — Text — Order

Texts in the order of their code points.

* `Text.compareCodes_eq`: the order is the lexicographic one, and so it is total and tells texts
  apart.
* `Text.pairwise_precedes_mergeSort`: things that are sorted by different texts stand in strictly
  increasing order.
* `Text.eq_of_pairwise_precedes`: there is one such order.
-/

namespace LintRun.Text

theorem compareCodes_eq (s t : List Char) :
    compareCodes s t = List.compareLex (compareOn Char.toNat) s t := by
  induction s generalizing t with
  | nil => cases t <;> rfl
  | cons a s ih =>
    cases t with
    | nil => rfl
    | cons b t => rw [compareCodes, List.compareLex_cons_cons, ih, compareOn]

instance lawfulEqCmp_compareOn_toNat : Std.LawfulEqCmp (compareOn Char.toNat) where
  compare_self := by simp [compareOn]
  eq_of_compare {a b} h := Char.toNat_inj.1 (Std.LawfulEqOrd.eq_of_compare h)

instance transCmp_compareCodes : Std.TransCmp compareCodes := by
  rw [show compareCodes = List.compareLex (compareOn Char.toNat) from funext₂ compareCodes_eq]
  infer_instance

instance lawfulEqCmp_compareCodes : Std.LawfulEqCmp compareCodes := by
  rw [show compareCodes = List.compareLex (compareOn Char.toNat) from funext₂ compareCodes_eq]
  infer_instance

/-! ### Sorting by texts -/

variable {α : Type} (text : α → String)

/-- Whether the text of one thing stands before that of another one. -/
def Precedes (x y : α) : Prop := compareCodes (text x).toList (text y).toList = .lt

variable {text}

/-- **Things that are sorted by different texts stand in strictly increasing order.** -/
theorem pairwise_precedes_mergeSort {xs : List α} (hxs : (xs.map text).Nodup) :
    (xs.mergeSort fun x y => compareCodes (text x).toList (text y).toList != .gt).Pairwise
      (Precedes text) := by
  set le : α → α → Bool := fun x y => compareCodes (text x).toList (text y).toList != .gt with hle
  have htrans (x y z : α) (h : le x y = true) (h' : le y z = true) : le x z = true := by
    simp only [hle, bne_iff_ne, ← Ordering.isLE_iff_ne_gt] at h h' ⊢
    exact Std.TransCmp.isLE_trans h h'
  have htotal (x y : α) : (le x y || le y x) = true := by
    have hswap : compareCodes (text y).toList (text x).toList =
        (compareCodes (text x).toList (text y).toList).swap :=
      Std.OrientedCmp.eq_swap
    simp only [hle, hswap, Bool.or_eq_true, bne_iff_ne]
    cases compareCodes (text x).toList (text y).toList <;> decide
  have hnodup : (xs.mergeSort le).Pairwise fun x y => text x ≠ text y :=
    List.pairwise_map.1 (((List.mergeSort_perm xs le).map text).nodup_iff.2 hxs)
  refine ((List.pairwise_mergeSort htrans htotal xs).and hnodup).imp fun {x y} h => ?_
  obtain ⟨hle', hne⟩ := h
  cases hcompare : compareCodes (text x).toList (text y).toList with
  | lt => exact hcompare
  | eq => exact absurd (String.toList_injective (Std.LawfulEqCmp.eq_of_compare hcompare)) hne
  | gt => simp [hle, hcompare] at hle'

/-- There is one strictly increasing order. -/
theorem eq_of_pairwise_precedes {xs ys : List α} (hxs : xs.Pairwise (Precedes text))
    (hys : ys.Pairwise (Precedes text)) (h : ∀ x, x ∈ xs ↔ x ∈ ys) : xs = ys := by
  have hne {x y : α} (hlt : Precedes text x y) : x ≠ y := by
    rintro rfl
    simp [Precedes, Std.ReflCmp.compare_self] at hlt
  have hnodup {zs : List α} (hzs : zs.Pairwise (Precedes text)) : zs.Nodup := hzs.imp hne
  have hperm : xs.Perm ys := (List.perm_ext_iff_of_nodup (hnodup hxs) (hnodup hys)).2 h
  refine hperm.eq_of_pairwise (fun x y _ _ hlt hgt => ?_) hxs hys
  have hlt' : compareCodes (text x).toList (text y).toList = .lt := hlt
  exact absurd hgt (Std.OrientedCmp.not_lt_of_lt hlt')

end LintRun.Text
