import Mathlib
import LintRun.Decimal.Layout
import LintRun.Proofs.Decimal.Rounding
import LintRun.Proofs.Text.Digit

/-!
# Proofs — Decimal — Digits and their layout

The shortest digits that stand for a number read back as it, also when they are set out with a point
or an exponent.

* `Binary64.Digits.value`: the value of a decimal.
* `Binary64.stripZeros_value`: zeros at the end of the digits do not matter.
* `Binary64.rounded_shortest`: the digits that stand for a number read back as it.
* `Binary64.setOut`: a numeral in its parts.
* `Binary64.SetsOut`: the parts stand for a value.
* `Binary64.exists_setsOut_writeDigits`: every text that is written is one of these.
-/

namespace LintRun.Binary64

/-! ### Shortest digits -/

section Shortest

variable {m n : Nat} {e point : Int} {x : Binary64} {negative : Bool} {d : Digits}

/-- The value of a decimal. -/
def Digits.value (d : Digits) : ℚ := d.digits * 10 ^ d.exponent

/-- The decimal rounded once. -/
def Digits.rounded (negative : Bool) (d : Digits) : Binary64 :=
  ofDecimal negative d.digits d.exponent

theorem Digits.rounded_congr {d d' : Digits} (h : d.value = d'.value) (negative : Bool) :
    d.rounded negative = d'.rounded negative :=
  ofDecimal_congr h negative

theorem stripZeros_value (fuel : Nat) (d : Digits) : (stripZeros fuel d).value = d.value := by
  induction fuel generalizing d with
  | zero => rfl
  | succ fuel ih =>
    rw [stripZeros]
    split
    · next h =>
      have hdigits : d.digits = d.digits / 10 * 10 := by omega
      rw [ih, Digits.value, Digits.value]
      conv_rhs => rw [hdigits]
      rw [zpow_add_one₀ (by norm_num)]
      push_cast
      ring
    · rfl

theorem eq_of_beq {x y : Binary64} (h : (x == y) = true) : x = y := by
  cases x
  cases y
  simpa [BEq.beq, instBEqBinary64.beq] using h

/-- The digits that are found read back as the number. -/
theorem rounded_of_searchGrids {num den tries count : Nat}
    (h : searchGrids x num den point tries count = some d) :
    d.rounded x.isNegative = x := by
  induction tries generalizing count with
  | zero => cases h
  | succ tries ih =>
    rw [searchGrids] at h
    cases hits : gridHits x num den (point - count) with
    | nil => exact ih (by simpa only [hits] using h)
    | cons best rest =>
      simp only [hits, Option.some.injEq] at h
      subst h
      have hmem : best ∈ gridHits x num den (point - count) := by
        rw [hits]; exact List.mem_cons_self
      rw [gridHits] at hmem
      exact eq_of_beq (List.mem_filter.1 hmem).2

/-- The exact value of a number, in digits. -/
theorem exact_value (m : Nat) (e : Int) :
    (if 0 ≤ e then (⟨(ratio m e).1, 0⟩ : Digits) else ⟨m * Nat.pow 5 (-e).toNat, e⟩).value =
      m * 2 ^ e := by
  split
  · next he =>
    obtain ⟨j, rfl⟩ := Int.eq_ofNat_of_zero_le he
    simp [Digits.value, ratio]
  · next he =>
    obtain ⟨j, hj⟩ := Int.eq_ofNat_of_zero_le (show 0 ≤ -e by omega)
    obtain rfl : e = -(j : Int) := by omega
    have hten : (10 : ℚ) ^ j = 5 ^ j * 2 ^ j := by rw [← mul_pow]; norm_num
    simp only [Digits.value, neg_neg, Int.toNat_natCast, Nat.pow_eq, zpow_neg, zpow_natCast, hten]
    push_cast
    field_simp

/-- **The digits that stand for a number read back as it.** -/
theorem rounded_shortest (h : x.view = .finite negative m e) :
    (x.shortest m e).rounded negative = x := by
  obtain ⟨hnegative, -⟩ := of_view_eq_finite h
  by_cases hm : m = 0
  · rw [shortest, if_pos hm]
    exact ofDecimal_of_view h (by simp [hm])
  rw [shortest, if_neg hm]
  simp only
  cases hd : searchGrids x (ratio m e).1 (ratio m e).2
      (pointPosition (ratio m e).1 (ratio m e).2) 17 1 with
  | none => exact ofDecimal_of_view h (exact_value m e)
  | some d =>
    rw [Digits.rounded_congr (stripZeros_value 20 d), ← hnegative]
    exact rounded_of_searchGrids hd

end Shortest

/-! ### Layout -/

open Text

/-- A numeral: digits, digits after a point, and an exponent. -/
def setOut (whole fraction : List Char) (exponent : Option Int) : List Char :=
  whole ++ (if fraction = [] then [] else '.' :: fraction) ++ (exponent.map exponentText).getD []

/-- Digits that are a zero alone, or do not start with one. -/
def IsWhole (digits : List Char) : Prop :=
  digits ≠ [] ∧ IsDigits digits ∧ (digits.head? = some '0' → digits = ['0'])

/-- The parts of a numeral that is no integer, and the value that they stand for. -/
structure SetsOut (whole fraction : List Char) (exponent : Option Int) (value : ℚ) : Prop where
  isWhole : IsWhole whole
  isFraction : IsDigits fraction
  isNumber : fraction ≠ [] ∨ exponent.isSome
  hasValue : (numberOf 10 (whole ++ fraction) : ℚ) * 10 ^ (exponent.getD 0 - fraction.length) =
    value

variable {n : Nat} {whole fraction : List Char}

theorem isWhole_toDigits (n : Nat) : IsWhole (Nat.toDigits 10 n) := by
  refine ⟨by simp, isDigits_toDigits n, fun h => ?_⟩
  by_cases hn : n = 0
  · simp [hn]
  · exact absurd h (head_toDigits_ne hn)

theorem isWhole_zero : IsWhole ['0'] := isWhole_toDigits 0

/-- The start of the digits of a number that is not zero. -/
theorem isWhole_take (hn : n ≠ 0) {count : Nat} (hcount : 0 < count) :
    IsWhole ((Nat.toDigits 10 n).take count) := by
  have hhead : ((Nat.toDigits 10 n).take count).head? = (Nat.toDigits 10 n).head? := by
    rw [List.head?_take, if_neg hcount.ne']
  refine ⟨fun h => ?_, (isDigits_toDigits n).take count,
    fun h => absurd (hhead.symm.trans h) (head_toDigits_ne hn)⟩
  rw [h] at hhead
  exact absurd (List.head?_eq_none_iff.1 hhead.symm) Nat.toDigits_ne_nil

/-- A point in front of all digits: a zero stands before it, and zeros behind it. -/
theorem exists_setsOut_leading (n count : Nat) :
    ∃ whole fraction, positional dataFile (Nat.toDigits 10 n) (-(count : Int)) = setOut
      whole fraction none ∧
      SetsOut whole fraction none (n * 10 ^ (-(count : Int) - (Nat.toDigits 10 n).length)) := by
  have hdigits : numberOf 10 ('0' :: (List.replicate count '0' ++ Nat.toDigits 10 n)) = n := by
    rw [← List.cons_append, ← List.replicate_succ, numberOf_append, numberOf_zeros,
      numberOf_toDigits]
    simp
  refine ⟨['0'], List.replicate count '0' ++ Nat.toDigits 10 n, ?_, isWhole_zero,
    (isDigits_zeros count).append (isDigits_toDigits n), .inl (by simp), ?_⟩
  · simp [positional, setOut]
  · rw [List.singleton_append, hdigits]
    congr 2
    simp
    ring

/-- A point behind all digits: zeros stand before it, and one behind it. -/
theorem exists_setsOut_trailing {n count : Nat} (hcount : 0 < count)
    (hlength : (Nat.toDigits 10 n).length ≤ count) (hzero : n = 0 → count = 1) :
    ∃ whole fraction, positional dataFile (Nat.toDigits 10 n) count = setOut whole fraction none ∧
      SetsOut whole fraction none (n * 10 ^ ((count : Int) - (Nat.toDigits 10 n).length)) := by
  have hdigits : numberOf 10
    (Nat.toDigits 10 n ++ List.replicate (count - (Nat.toDigits 10 n).length) '0' ++ ['0']) =
      n * 10 ^ (count - (Nat.toDigits 10 n).length) * 10 := by
    have hlast : numberOf 10 ['0'] = 0 := by decide
    rw [numberOf_append, numberOf_append, numberOf_zeros, numberOf_toDigits, hlast]
    simp
  have hwhole : IsWhole
      (Nat.toDigits 10 n ++ List.replicate (count - (Nat.toDigits 10 n).length) '0') := by
    by_cases hn : n = 0
    · simpa [hn, hzero hn] using isWhole_zero
    · have hhead (zeros : List Char) : (Nat.toDigits 10 n ++ zeros).head? =
          (Nat.toDigits 10 n).head? := by
        rw [List.head?_append, Option.or_of_isSome (by simp [Option.isSome_iff_ne_none])]
      exact ⟨by simp, (isDigits_toDigits n).append (isDigits_zeros _),
        fun h => absurd ((hhead _).symm.trans h) (head_toDigits_ne hn)⟩
  refine ⟨Nat.toDigits 10 n ++ List.replicate (count - (Nat.toDigits 10 n).length) '0', ['0'], ?_,
    hwhole, isDigits_zeros 1, .inl (by simp), ?_⟩
  · rw [positional, if_neg (by omega), Int.toNat_natCast, List.take_of_length_le hlength,
      List.drop_of_length_le hlength]
    simp [setOut, dataFile, plain]
  · rw [hdigits]
    obtain ⟨zeros, rfl⟩ := Nat.exists_eq_add_of_le hlength
    push_cast
    simp

/-- A point among the digits. -/
theorem exists_setsOut_between {n count : Nat} (hcount : 0 < count)
    (hlength : count < (Nat.toDigits 10 n).length) :
    ∃ whole fraction, positional dataFile (Nat.toDigits 10 n) count = setOut whole fraction none ∧
      SetsOut whole fraction none (n * 10 ^ ((count : Int) - (Nat.toDigits 10 n).length)) := by
  have hn : n ≠ 0 := by
    rintro rfl
    simp at hlength
    omega
  obtain ⟨c, rest, hrest⟩ : ∃ c rest, (Nat.toDigits 10 n).drop count = c :: rest :=
    List.exists_cons_of_ne_nil (by simpa using hlength)
  have htotal : (Nat.toDigits 10 n).length = count + (rest.length + 1) := by
    have := congrArg List.length hrest
    rw [List.length_drop, List.length_cons] at this
    omega
  have hfraction : IsDigits (c :: rest) := hrest ▸ (isDigits_toDigits n).drop count
  refine ⟨(Nat.toDigits 10 n).take count, c :: rest, ?_, isWhole_take hn hcount,
    hfraction, .inl (by simp), ?_⟩
  · rw [positional, if_neg (by omega), Int.toNat_natCast, hrest]
    simp [setOut, Nat.sub_eq_zero_of_le hlength.le]
  · rw [← hrest, List.take_append_drop, numberOf_toDigits, hrest, htotal]
    congr 2
    simp

/-- **A number with a point has the value of its digits.** -/
theorem exists_setsOut_positional (n : Nat) (before : Int) (hzero : n = 0 → before = 1) :
    ∃ whole fraction, positional dataFile (Nat.toDigits 10 n) before = setOut whole fraction none ∧
      SetsOut whole fraction none (n * 10 ^ (before - (Nat.toDigits 10 n).length)) := by
  by_cases hbefore : before ≤ 0
  · obtain ⟨count, rfl⟩ : ∃ count : Nat, before = -(count : Int) := ⟨(-before).toNat, by omega⟩
    exact exists_setsOut_leading n count
  · obtain ⟨count, rfl⟩ := Int.eq_ofNat_of_zero_le (show 0 ≤ before by omega)
    rcases Nat.lt_or_ge count (Nat.toDigits 10 n).length with hlength | hlength
    · exact exists_setsOut_between (by omega) hlength
    · exact exists_setsOut_trailing (by omega) hlength fun hn => by exact_mod_cast hzero hn

/-- A number with an exponent has the value of its digits. -/
theorem exists_setsOut_scientific (n : Nat) (first : Int) :
    ∃ whole fraction,
      (match Nat.toDigits 10 n with
        | [] => []
        | [c] => c :: exponentText first
        | c :: rest => c :: '.' :: (rest ++ exponentText first)) = setOut whole
            fraction (some first) ∧
      SetsOut whole fraction (some first) (n * 10 ^ (first + 1 - (Nat.toDigits 10 n).length)) := by
  obtain ⟨c, rest, hdigits⟩ := List.exists_cons_of_ne_nil (Nat.toDigits_ne_nil (n := n) (b := 10))
  have hall : IsDigits (c :: rest) := hdigits ▸ isDigits_toDigits n
  have hnumber : numberOf 10 ([c] ++ rest) = n := by
    rw [List.singleton_append, ← hdigits, numberOf_toDigits]
  rw [hdigits]
  refine ⟨[c], rest, ?_, ⟨by simp, hall.take 1, by simp⟩, hall.drop 1, .inr rfl, ?_⟩
  · cases rest <;> simp [setOut]
  · rw [hnumber]
    congr 2
    simp

/-- **A number that is written has the value of its digits.** -/
theorem exists_setsOut_writeDigits (d : Digits) :
    ∃ whole fraction exponent, dataFile.writeDigits d = setOut whole fraction exponent ∧
      SetsOut whole fraction exponent d.value := by
  rw [← stripZeros_value 400 d, Layout.writeDigits]
  generalize stripZeros 400 d = d
  obtain ⟨n, k⟩ := d
  have key (first : Int)
      (hfirst : first = if n = 0 then 0 else k + (Nat.toDigits 10 n).length - 1) :
      ∃ whole fraction exponent,
        (if dataFile.leastPositional ≤ first && first < dataFile.pastPositional then
            positional dataFile (Nat.toDigits 10 n) (first + 1)
          else
            match Nat.toDigits 10 n with
            | [] => []
            | [c] => c :: exponentText first
            | c :: rest => c :: '.' :: (rest ++ exponentText first)) = setOut
                whole fraction exponent ∧
        SetsOut whole fraction exponent (Digits.value ⟨n, k⟩) := by
    have hvalue : (n : ℚ) * 10 ^ (first + 1 - (Nat.toDigits 10 n).length) =
        Digits.value ⟨n, k⟩ := by
      by_cases hn : n = 0
      · simp [Digits.value, hn]
      · rw [hfirst, if_neg hn, Digits.value]
        congr 2
        ring
    have hzero (hn : n = 0) : first + 1 = 1 := by rw [hfirst, if_pos hn, zero_add]
    rw [← hvalue]
    split
    · obtain ⟨whole, fraction, h⟩ := exists_setsOut_positional n (first + 1) hzero
      exact ⟨whole, fraction, none, h⟩
    · obtain ⟨whole, fraction, h⟩ := exists_setsOut_scientific n first
      exact ⟨whole, fraction, some first, h⟩
  exact key _ rfl

end LintRun.Binary64
