import Mathlib
import LintRun.Decimal.Shortest

/-!
# Proofs — Decimal — Rounding

What a quotient is rounded to depends on its value alone, and a value that is a number is rounded to
it.

* `Binary64.unitExponent_eq`: the unit is fifty-two binary places below the first one, unless that
  is too small.
* `Binary64.ofRatio_congr`: equal quotients are rounded alike.
* `Binary64.ofRatio_of_view`: the value of a number is rounded to the number.
* `Binary64.isPositive_of_ofInt?`: an integer above zero is rounded to a number above zero.
* `Binary64.ofDecimal_congr`, `Binary64.ofDecimal_of_view`: the same for decimals.
-/

namespace LintRun.Binary64

variable {num den num' den' c m : Nat} {e : Int} {x : Binary64} {negative : Bool}

/-! ### Quotients -/

/-- A natural number lies between two powers of two next to each other. -/
theorem zpow_log2_le (hnum : num ≠ 0) : (2 : ℚ) ^ (num.log2 : Int) ≤ num := by
  rw [zpow_natCast]
  exact_mod_cast Nat.log2_self_le hnum

theorem lt_zpow_log2_succ (num : Nat) : (num : ℚ) < 2 ^ ((num.log2 : Int) + 1) := by
  have h : num < 2 ^ (num.log2 + 1) := Nat.lt_log2_self
  exact_mod_cast h

/-- Whether a quotient reaches a power of two, told without fractions. -/
theorem reaches_iff (num : Nat) (hden : den ≠ 0) (k : Int) :
    (if 0 ≤ k then den * Nat.pow 2 k.toNat ≤ num else den ≤ num * Nat.pow 2 (-k).toNat) ↔
      (2 : ℚ) ^ k ≤ num / den := by
  have hpos : (0 : ℚ) < den := by exact_mod_cast Nat.pos_of_ne_zero hden
  rw [le_div_iff₀ hpos]
  split
  · next hk =>
    obtain ⟨j, rfl⟩ := Int.eq_ofNat_of_zero_le hk
    simp only [Int.toNat_natCast, Nat.pow_eq, zpow_natCast]
    rw [mul_comm]
    exact_mod_cast Iff.rfl
  · next hk =>
    obtain ⟨j, hj⟩ := Int.eq_ofNat_of_zero_le (show 0 ≤ -k by omega)
    obtain rfl : k = -(j : Int) := by omega
    simp only [neg_neg, Int.toNat_natCast, Nat.pow_eq, zpow_neg, zpow_natCast]
    rw [inv_mul_le_iff₀ (by positivity), mul_comm]
    exact_mod_cast Iff.rfl

/-- **The unit of a quotient** is fifty-two binary places below its first one, unless that is below
the smallest. -/
theorem unitExponent_eq (hnum : num ≠ 0) (hden : den ≠ 0) :
    unitExponent num den = max (Int.log 2 ((num : ℚ) / den) - 52) (-1074) := by
  have hn : (0 : ℚ) < num := by exact_mod_cast Nat.pos_of_ne_zero hnum
  have hd : (0 : ℚ) < den := by exact_mod_cast Nat.pos_of_ne_zero hden
  have hlow : (2 : ℚ) ^ ((num.log2 : Int) - den.log2 - 1) ≤ num / den := by
    rw [le_div_iff₀ hd]
    calc (2 : ℚ) ^ ((num.log2 : Int) - den.log2 - 1) * den
        ≤ 2 ^ ((num.log2 : Int) - den.log2 - 1) * 2 ^ ((den.log2 : Int) + 1) := by
          gcongr
          exact (lt_zpow_log2_succ den).le
      _ = 2 ^ (num.log2 : Int) := by rw [← zpow_add₀ two_ne_zero]; congr 1; ring
      _ ≤ num := zpow_log2_le hnum
  have hhigh : (num : ℚ) / den < 2 ^ ((num.log2 : Int) - den.log2 + 1) := by
    rw [div_lt_iff₀ hd]
    calc (num : ℚ) < 2 ^ ((num.log2 : Int) + 1) := lt_zpow_log2_succ num
      _ = 2 ^ ((num.log2 : Int) - den.log2 + 1) * 2 ^ (den.log2 : Int) := by
          rw [← zpow_add₀ two_ne_zero]; congr 1; ring
      _ ≤ 2 ^ ((num.log2 : Int) - den.log2 + 1) * den := by
          gcongr
          exact zpow_log2_le hden
  have hpos : (0 : ℚ) < num / den := div_pos hn hd
  have hge : (num.log2 : Int) - den.log2 - 1 ≤ Int.log 2 ((num : ℚ) / den) :=
    (Int.zpow_le_iff_le_log one_lt_two hpos).1 (by exact_mod_cast hlow)
  have hlt : Int.log 2 ((num : ℚ) / den) < (num.log2 : Int) - den.log2 + 1 :=
    (Int.lt_zpow_iff_log_lt one_lt_two hpos).1 (by exact_mod_cast hhigh)
  have hreached := (reaches_iff num hden ((num.log2 : Int) - den.log2)).trans
    ((by norm_cast : (2 : ℚ) ^ ((num.log2 : Int) - den.log2) ≤ num / den ↔
      ((2 : Nat) : ℚ) ^ ((num.log2 : Int) - den.log2) ≤ num / den).trans
      (Int.zpow_le_iff_le_log one_lt_two hpos))
  have hguess : (num.log2 : Int) - den.log2 - 52 + 52 = num.log2 - den.log2 := by ring
  rw [unitExponent]
  simp only [hguess, hreached]
  split <;> congr 1 <;> omega

theorem roundDiv_mul_right (num den : Nat) (hc : 0 < c) :
    roundDiv (num * c) (den * c) = roundDiv num den := by
  have htwice : 2 * (num % den * c) = 2 * (num % den) * c := by rw [Nat.mul_assoc]
  have hbelow : den * c < 2 * (num % den) * c ↔ den < 2 * (num % den) := Nat.mul_lt_mul_right hc
  have htie : den * c = 2 * (num % den) * c ↔ den = 2 * (num % den) :=
    Nat.mul_left_inj (Nat.ne_of_gt hc)
  rw [roundDiv, roundDiv]
  simp only [Nat.mul_div_mul_right num den hc, Nat.mul_mod_mul_right, htwice, hbelow, htie]

theorem ofRatio_mul_right (negative : Bool) (num : Nat) (hden : den ≠ 0) (hc : 0 < c) :
    ofRatio negative (num * c) (den * c) = ofRatio negative num den := by
  by_cases hnum : num = 0
  · simp [ofRatio, hnum]
  have hc' : (c : ℚ) ≠ 0 := by exact_mod_cast Nat.ne_of_gt hc
  have hunit : unitExponent (num * c) (den * c) = unitExponent num den := by
    rw [unitExponent_eq (Nat.mul_ne_zero hnum hc.ne') (Nat.mul_ne_zero hden hc.ne'),
      unitExponent_eq hnum hden]
    push_cast
    rw [mul_div_mul_right _ _ hc']
  rw [ofRatio, ofRatio, if_neg hnum, if_neg (Nat.mul_ne_zero hnum hc.ne')]
  simp only [hunit, Nat.mul_right_comm num c, Nat.mul_right_comm den c, roundDiv_mul_right _ _ hc]

/-- **Equal quotients are rounded alike.** -/
theorem ofRatio_congr (hden : den ≠ 0) (hden' : den' ≠ 0) (h : num * den' = num' * den)
    (negative : Bool) :
    ofRatio negative num den = ofRatio negative num' den' := by
  rw [← ofRatio_mul_right negative num hden (Nat.pos_of_ne_zero hden'), h, Nat.mul_comm den den',
    ofRatio_mul_right negative num' hden' (Nat.pos_of_ne_zero hden)]

/-! ### Numbers -/

theorem ofMagnitude_magnitude (x : Binary64) : ofMagnitude x.isNegative x.magnitude = x := by
  have hlt : x.bits.toNat < 2 ^ 64 := x.bits.toNat_lt
  have hword : (if x.isNegative then Nat.pow 2 63 + x.magnitude else x.magnitude) =
      x.bits.toNat := by
    simp only [isNegative, magnitude, Nat.pow_eq, decide_eq_true_eq]
    split <;> omega
  rw [ofMagnitude, hword, UInt64.ofNat_toNat]

/-- What the view of a finite number says: the sign, and a magnitude that is its unit and its
significand. -/
theorem of_view_eq_finite (h : x.view = .finite negative m e) :
    x.isNegative = negative ∧ (x.magnitude : Int) = (e + 1074) * 2 ^ 52 + m ∧
    x.magnitude < infinityWord ∧
      (e = -1074 ∧ m < 2 ^ 52 ∨ -1074 ≤ e ∧ e < 972 ∧ 2 ^ 52 ≤ m ∧ m < 2 ^ 53) := by
  have hdiv := Nat.div_add_mod x.magnitude (2 ^ 52)
  have hmod := Nat.mod_lt x.magnitude (show 2 ^ 52 > 0 by decide)
  have hfield : x.magnitude / 2 ^ 52 < 2048 := by
    rw [Nat.div_lt_iff_lt_mul (by decide), magnitude]
    exact Nat.mod_lt _ (by decide)
  simp only [view, Nat.pow_eq] at h
  simp only [infinityWord, Nat.pow_eq]
  generalize x.magnitude / 2 ^ 52 = field at *
  generalize x.magnitude % 2 ^ 52 = fraction at *
  split at h
  · split at h <;> cases h
  · split at h
    · cases h
      refine ⟨rfl, ?_, ?_, .inl ⟨rfl, hmod⟩⟩ <;> omega
    · cases h
      refine ⟨rfl, ?_, ?_, .inr ?_⟩ <;> omega

theorem infinity_of_view (h : x.view = .infinite negative) : infinity negative = x := by
  have hdiv := Nat.div_add_mod x.magnitude (2 ^ 52)
  simp only [view, Nat.pow_eq] at h
  split at h
  · next hfield =>
    split at h
    · next hfraction =>
      cases h
      have hword : infinityWord = x.magnitude := by
        rw [infinityWord, Nat.pow_eq, ← hdiv, hfield, hfraction]
        omega
      rw [infinity, hword, ofMagnitude_magnitude]
    · cases h
  · split at h <;> cases h

theorem ratio_snd_ne_zero (m : Nat) (e : Int) : (ratio m e).2 ≠ 0 := by
  rw [ratio]
  split <;> simp

theorem ratio_div (m : Nat) (e : Int) : ((ratio m e).1 : ℚ) / (ratio m e).2 = m * 2 ^ e := by
  rw [ratio]
  split
  · next he =>
    obtain ⟨j, rfl⟩ := Int.eq_ofNat_of_zero_le he
    simp
  · next he =>
    obtain ⟨j, hj⟩ := Int.eq_ofNat_of_zero_le (show 0 ≤ -e by omega)
    obtain rfl : e = -(j : Int) := by omega
    simp [div_eq_mul_inv]

/-- The unit of a number is that of its value. -/
theorem unitExponent_ratio (h : x.view = .finite negative m e) (hm : m ≠ 0) :
    unitExponent (ratio m e).1 (ratio m e).2 = e := by
  have hnum : (ratio m e).1 ≠ 0 := by
    rw [ratio]
    split <;> simp [hm]
  rw [unitExponent_eq hnum (ratio_snd_ne_zero m e), ratio_div]
  have hpos : (0 : ℚ) < m * 2 ^ e := by
    have : (0 : ℚ) < m := by exact_mod_cast Nat.pos_of_ne_zero hm
    positivity
  obtain ⟨-, -, -, ⟨rfl, hbelow⟩ | ⟨hsmallest, -, hlow, hhigh⟩⟩ := of_view_eq_finite h
  · have hlog : Int.log 2 ((m : ℚ) * 2 ^ (-1074 : Int)) < 52 + -1074 := by
      refine (Int.lt_zpow_iff_log_lt one_lt_two hpos).1 ?_
      rw [Nat.cast_two, zpow_add₀ two_ne_zero]
      gcongr
      exact_mod_cast hbelow
    omega
  · have hge : 52 + e ≤ Int.log 2 ((m : ℚ) * 2 ^ e) := by
      refine (Int.zpow_le_iff_le_log one_lt_two hpos).1 ?_
      rw [Nat.cast_two, zpow_add₀ two_ne_zero]
      gcongr
      exact_mod_cast hlow
    have hlt : Int.log 2 ((m : ℚ) * 2 ^ e) < 53 + e := by
      refine (Int.lt_zpow_iff_log_lt one_lt_two hpos).1 ?_
      rw [Nat.cast_two, zpow_add₀ two_ne_zero]
      gcongr
      exact_mod_cast hhigh
    omega

theorem roundDiv_mul_self (m : Nat) (hden : 0 < den) : roundDiv (m * den) den = m := by
  simp [roundDiv, Nat.mul_div_cancel m hden, hden.ne']

/-- **The value of a number is rounded to the number.** -/
theorem ofRatio_of_view (h : x.view = .finite negative m e) (hm : m ≠ 0) (hden : den ≠ 0)
    (hvalue : (num : ℚ) / den = m * 2 ^ e) : ofRatio negative num den = x := by
  have hcross : num * (ratio m e).2 = (ratio m e).1 * den := by
    rw [← ratio_div,
      div_eq_div_iff (by exact_mod_cast hden) (by exact_mod_cast ratio_snd_ne_zero m e)] at hvalue
    exact_mod_cast hvalue
  rw [ofRatio_congr hden (ratio_snd_ne_zero m e) hcross]
  obtain ⟨rfl, hmagnitude, hfinite, hrange⟩ := of_view_eq_finite h
  have hsignificand : (if 0 ≤ e then roundDiv (ratio m e).1 ((ratio m e).2 * Nat.pow 2 e.toNat)
      else roundDiv ((ratio m e).1 * Nat.pow 2 (-e).toNat) (ratio m e).2) = m := by
    rw [ratio]
    split <;> simp [roundDiv_mul_self]
  have hnum : (ratio m e).1 ≠ 0 := by
    rw [ratio]
    split <;> simp [hm]
  have hword : (e + 1074).toNat * Nat.pow 2 52 + m = x.magnitude := by
    rw [Nat.pow_eq]
    omega
  rw [ofRatio, if_neg hnum]
  simp only [unitExponent_ratio h hm, hsignificand, hword]
  rw [if_neg (by omega), ofMagnitude_magnitude]

/-! ### Signs -/

theorem magnitude_ofMagnitude {word : Nat} (h : word < 2 ^ 63) (negative : Bool) :
    (ofMagnitude negative word).magnitude = word := by
  rw [magnitude, ofMagnitude, UInt64.toNat_ofNat']
  simp only [Nat.pow_eq]
  split <;> omega

theorem isNegative_ofMagnitude {word : Nat} (h : word < 2 ^ 63) (negative : Bool) :
    (ofMagnitude negative word).isNegative = negative := by
  rw [isNegative, ofMagnitude, UInt64.toNat_ofNat']
  simp only [Nat.pow_eq]
  cases negative
  · rw [decide_eq_false_iff_not, if_neg Bool.false_ne_true]
    omega
  · rw [decide_eq_true_iff, if_pos rfl]
    omega

/-- What is not zero or less is above zero, or it is no number. -/
theorem isPositive_iff : x.isPositive = true ↔ x.isNonPositive = false ∧ x.isNaN = false := by
  rw [isPositive, isNonPositive]
  cases x.isNegative <;> cases x.isNaN <;> simp [Nat.pos_iff_ne_zero]

/-- A quotient is infinite, or its word is its unit with a significand. -/
theorem ofRatio_cases (negative : Bool) (hnum : num ≠ 0) (den : Nat) :
    ofRatio negative num den = infinity negative ∨
      ∃ word, (unitExponent num den + 1074).toNat * 2 ^ 52 ≤ word ∧ word < infinityWord ∧
        ofRatio negative num den = ofMagnitude negative word := by
  rw [ofRatio, if_neg hnum]
  extract_lets e m word
  by_cases hinfinite : infinityWord ≤ word
  · exact .inl (if_pos hinfinite)
  · exact .inr ⟨word, Nat.le_add_right _ _, not_le.1 hinfinite, if_neg hinfinite⟩

/-- **An integer above zero is rounded to a number above zero.** -/
theorem isPositive_of_ofInt? {i : Int} (hi : 0 < i) (h : ofInt? i = some x) :
    x.isPositive = true := by
  have hnum : i.natAbs ≠ 0 := by omega
  have hlog : 0 ≤ Int.log 2 ((i.natAbs : ℚ) / (1 : Nat)) := by
    rw [Nat.cast_one, div_one, Int.log_natCast]
    exact Int.natCast_nonneg _
  have hunit : -1074 < unitExponent i.natAbs 1 := by
    rw [unitExponent_eq hnum one_ne_zero]
    omega
  simp only [ofInt?, decide_eq_false hi.not_gt] at h
  rcases ofRatio_cases false hnum 1 with hinfinite | ⟨word, hlow, hhigh, hfinite⟩
  · have hmagnitude : (infinity false).magnitude = infinityWord :=
      magnitude_ofMagnitude (by decide) false
    rw [hinfinite, if_pos hmagnitude] at h
    cases h
  · have hword : word < 2 ^ 63 := hhigh.trans (by decide)
    have hpositive : 0 < word := by omega
    rw [hfinite, magnitude_ofMagnitude hword, if_neg hhigh.ne] at h
    rw [← Option.some.inj h, isPositive, isNaN, magnitude_ofMagnitude hword,
      isNegative_ofMagnitude hword]
    simp [hpositive, hhigh.le]

/-! ### Decimals -/

/-- How many digits a number has. -/
theorem length_toDigits (hm : m ≠ 0) : ((Nat.toDigits 10 m).length : Int) = Nat.log 10 m + 1 := by
  have hpos : 0 < (Nat.toDigits 10 m).length := Nat.length_toDigits_pos
  have hlt : m < 10 ^ (Nat.toDigits 10 m).length :=
    (Nat.length_toDigits_le_iff (by decide) hpos).1 le_rfl
  have hfits : m < 10 ^ (Nat.log 10 m + 1) := Nat.lt_pow_succ_log_self (by decide) m
  have hle : (Nat.toDigits 10 m).length ≤ Nat.log 10 m + 1 :=
    (Nat.length_toDigits_le_iff (by decide) (Nat.succ_pos _)).2 hfits
  have hlog : Nat.log 10 m < (Nat.toDigits 10 m).length := Nat.log_lt_of_lt_pow hm hlt
  omega

/-- The decimal place of the first digit is that of the value. -/
theorem log_decimal (hm : m ≠ 0) (k : Int) : Int.log 10 ((m : ℚ) * 10 ^ k) = Nat.log 10 m + k := by
  have hpos : (0 : ℚ) < m := by exact_mod_cast Nat.pos_of_ne_zero hm
  have hlow : (10 : ℚ) ^ Nat.log 10 m ≤ m := by exact_mod_cast Nat.pow_log_le_self 10 hm
  have hhigh : (m : ℚ) < 10 ^ (Nat.log 10 m + 1) := by
    exact_mod_cast Nat.lt_pow_succ_log_self (by decide) m
  have hge : Nat.log 10 m + k ≤ Int.log 10 ((m : ℚ) * 10 ^ k) := by
    refine (Int.zpow_le_iff_le_log (by decide) (by positivity)).1 ?_
    rw [Nat.cast_ofNat, zpow_add₀ (by norm_num), zpow_natCast]
    gcongr
  have hlt : Int.log 10 ((m : ℚ) * 10 ^ k) < Nat.log 10 m + 1 + k := by
    refine (Int.lt_zpow_iff_log_lt (by decide) (by positivity)).1 ?_
    rw [Nat.cast_ofNat, zpow_add₀ (by norm_num)]
    gcongr
    exact_mod_cast hhigh
  omega

theorem scaleDown_snd_ne_zero (hden : den ≠ 0) (k : Int) : (scaleDown num den k).2 ≠ 0 := by
  rw [scaleDown]
  split <;> simp [hden]

theorem scaleDown_div (num den : Nat) (k : Int) :
    ((scaleDown num den k).1 : ℚ) / (scaleDown num den k).2 = num / den / 10 ^ k := by
  rw [scaleDown]
  split
  · next hk =>
    obtain ⟨j, rfl⟩ := Int.eq_ofNat_of_zero_le hk
    simp [div_div]
  · next hk =>
    obtain ⟨j, hj⟩ := Int.eq_ofNat_of_zero_le (show 0 ≤ -k by omega)
    obtain rfl : k = -(j : Int) := by omega
    simp [mul_div_right_comm]

/-- A decimal that is not zero is rounded as a quotient, unless the place of its first digit is out
of reach. -/
theorem ofDecimal_eq (hm : m ≠ 0) (k : Int) (negative : Bool) :
    ofDecimal negative m k =
      if 399 < Int.log 10 ((m : ℚ) * 10 ^ k) then infinity negative
      else if Int.log 10 ((m : ℚ) * 10 ^ k) < -401 then zero negative
      else ofRatio negative (scaleDown m 1 (-k)).1 (scaleDown m 1 (-k)).2 := by
  have htop : k + (Nat.toDigits 10 m).length = Int.log 10 ((m : ℚ) * 10 ^ k) + 1 := by
    rw [length_toDigits hm, log_decimal hm]
    ring
  have hratio : (if 0 ≤ k then ofRatio negative (m * Nat.pow 10 k.toNat) 1
        else ofRatio negative m (Nat.pow 10 (-k).toNat)) =
      ofRatio negative (scaleDown m 1 (-k)).1 (scaleDown m 1 (-k)).2 := by
    rw [scaleDown]
    rcases lt_trichotomy k 0 with hk | rfl | hk
    · rw [if_neg (by omega), if_pos (by omega), Nat.one_mul]
    · simp
    · rw [if_pos (by omega), if_neg (by omega), neg_neg]
  rw [ofDecimal, if_neg hm]
  simp only [htop, hratio]
  congr 1
  · exact propext ⟨fun h => by omega, fun h => by omega⟩
  · congr 1
    exact propext ⟨fun h => by omega, fun h => by omega⟩

/-- **Equal decimals are rounded alike.** -/
theorem ofDecimal_congr {m n : Nat} {j k : Int} (h : (m : ℚ) * 10 ^ j = n * 10 ^ k)
    (negative : Bool) :
    ofDecimal negative m j = ofDecimal negative n k := by
  by_cases hm : m = 0
  · have hn : n = 0 := by simpa [hm, zpow_ne_zero] using h.symm
    simp [ofDecimal, hm, hn]
  have hn : n ≠ 0 := by
    rintro rfl
    simp [hm, zpow_ne_zero] at h
  have hcross : (scaleDown m 1 (-j)).1 * (scaleDown n 1 (-k)).2 =
      (scaleDown n 1 (-k)).1 * (scaleDown m 1 (-j)).2 := by
    have hquotients : ((scaleDown m 1 (-j)).1 : ℚ) / (scaleDown m 1 (-j)).2 =
        (scaleDown n 1 (-k)).1 / (scaleDown n 1 (-k)).2 := by
      simpa [scaleDown_div] using h
    rw [div_eq_div_iff (by exact_mod_cast scaleDown_snd_ne_zero one_ne_zero (-j))
      (by exact_mod_cast scaleDown_snd_ne_zero one_ne_zero (-k))] at hquotients
    exact_mod_cast hquotients
  rw [ofDecimal_eq hm, ofDecimal_eq hn, h,
    ofRatio_congr (scaleDown_snd_ne_zero one_ne_zero _)
      (scaleDown_snd_ne_zero one_ne_zero _) hcross]

/-- Three binary places are less than a decimal one. -/
theorem two_zpow_le {j k : Int} (hk : 0 ≤ k) (h : j ≤ 3 * k) : (2 : ℚ) ^ j ≤ 10 ^ k := by
  obtain ⟨n, rfl⟩ := Int.eq_ofNat_of_zero_le hk
  calc (2 : ℚ) ^ j ≤ 2 ^ (3 * (n : Int)) := zpow_le_zpow_right₀ one_le_two h
    _ = (2 ^ 3) ^ n := by rw [zpow_mul, zpow_natCast]; norm_cast
    _ ≤ 10 ^ n := by gcongr; norm_num
    _ = 10 ^ (n : Int) := (zpow_natCast 10 n).symm

/-- The value of a number is within reach of decimals. -/
theorem log_value (h : x.view = .finite negative m e) (hm : m ≠ 0) :
    -401 ≤ Int.log 10 ((m : ℚ) * 2 ^ e) ∧ Int.log 10 ((m : ℚ) * 2 ^ e) ≤ 399 := by
  have hone : (1 : ℚ) ≤ m := by exact_mod_cast Nat.one_le_iff_ne_zero.2 hm
  have hpos : (0 : ℚ) < m * 2 ^ e := by positivity
  obtain ⟨-, -, -, hrange⟩ := of_view_eq_finite h
  constructor
  · refine (Int.zpow_le_iff_le_log (by decide) hpos).1 ?_
    rw [Nat.cast_ofNat]
    calc (10 : ℚ) ^ (-401 : Int) ≤ 2 ^ (-1074 : Int) := by
          rw [zpow_neg, zpow_neg, inv_le_inv₀ (by positivity) (by positivity)]
          exact two_zpow_le (by decide) (by decide)
      _ ≤ 2 ^ e := zpow_le_zpow_right₀ one_le_two (by omega)
      _ ≤ m * 2 ^ e := le_mul_of_one_le_left (by positivity) hone
  · refine Int.lt_add_one_iff.1 ((Int.lt_zpow_iff_log_lt (by decide) hpos).1 ?_)
    rw [Nat.cast_ofNat]
    have hsignificand : (m : ℚ) < 2 ^ (53 : Int) := by
      have : m < 2 ^ 53 := by omega
      exact_mod_cast this
    calc (m : ℚ) * 2 ^ e ≤ 2 ^ (53 : Int) * 2 ^ (971 : Int) := by
          gcongr
          · norm_num
          · omega
      _ = 2 ^ (53 + 971 : Int) := (zpow_add₀ two_ne_zero 53 971).symm
      _ ≤ 10 ^ (399 : Int) := two_zpow_le (by decide) (by decide)
      _ < 10 ^ (399 + 1 : Int) := zpow_lt_zpow_right₀ (by norm_num) (by decide)

theorem zero_of_view (h : x.view = .finite negative 0 e) : zero negative = x := by
  obtain ⟨rfl, hmagnitude, -, hrange⟩ := of_view_eq_finite h
  have hzero : x.magnitude = 0 := by omega
  rw [zero, ← hzero, ofMagnitude_magnitude]

/-- **A decimal that is the value of a number is rounded to the number.** -/
theorem ofDecimal_of_view (h : x.view = .finite negative m e) {n : Nat} {k : Int}
    (hvalue : (n : ℚ) * 10 ^ k = m * 2 ^ e) : ofDecimal negative n k = x := by
  by_cases hm : m = 0
  · subst hm
    have hn : n = 0 := by simpa [zpow_ne_zero] using hvalue
    rw [ofDecimal, if_pos hn, zero_of_view h]
  have hn : n ≠ 0 := by
    rintro rfl
    simp [hm, zpow_ne_zero] at hvalue
  obtain ⟨hlow, hhigh⟩ := log_value h hm
  rw [ofDecimal_eq hn, hvalue, if_neg (by omega), if_neg (by omega)]
  refine ofRatio_of_view h hm (scaleDown_snd_ne_zero one_ne_zero _) ?_
  rw [scaleDown_div, ← hvalue]
  simp

end LintRun.Binary64
