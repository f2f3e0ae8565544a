import Mathlib
import LintRun.Text.Digit

/-!
# Proofs — Text — Digits

The decimal digits of a number read back as it.

* `Text.numberOf_toDigits`: digits that are written.
* `Text.takeWhile_isAsciiDigit`, `Text.dropWhile_isAsciiDigit`: digits up to where they end.
-/

namespace LintRun.Text

variable {base n : Nat} {digits rest : List Char} {c : Char}

theorem isAsciiDigit_eq_isDigit (c : Char) : isAsciiDigit c = c.isDigit := rfl

/-- A text of digits. -/
def IsDigits (text : List Char) : Prop := ∀ c ∈ text, isAsciiDigit c = true

/-- The digits of a number are digits. -/
theorem isDigits_toDigits (n : Nat) : IsDigits (Nat.toDigits 10 n) := fun c hc => by
  rw [isAsciiDigit_eq_isDigit]
  exact Nat.isDigit_of_mem_toDigits (by decide) (by decide) hc

theorem isDigits_zeros (count : Nat) : IsDigits (List.replicate count '0') := fun c hc => by
  rw [List.eq_of_mem_replicate hc]
  rfl

theorem IsDigits.append {text : List Char} (h : IsDigits digits) (htext : IsDigits text) :
    IsDigits (digits ++ text) :=
  fun c hc => (List.mem_append.1 hc).elim (h c) (htext c)

theorem IsDigits.take (h : IsDigits digits) (count : Nat) : IsDigits (digits.take count) :=
  fun c hc => h c (List.mem_of_mem_take hc)

theorem IsDigits.drop (h : IsDigits digits) (count : Nat) : IsDigits (digits.drop count) :=
  fun c hc => h c (List.mem_of_mem_drop hc)

/-- A text that no digit stands in front of. -/
def EndsDigits (rest : List Char) : Prop := ∀ c ∈ rest.head?, isAsciiDigit c = false

/-- Digits are taken up to what ends them. -/
theorem takeWhile_isAsciiDigit (h : IsDigits digits) (hrest : EndsDigits rest) :
    (digits ++ rest).takeWhile isAsciiDigit = digits := by
  rw [List.takeWhile_append_of_pos h]
  cases rest with
  | nil => simp
  | cons c tail => simp [hrest c rfl]

/-- What is left behind digits is what ends them. -/
theorem dropWhile_isAsciiDigit (h : IsDigits digits) (hrest : EndsDigits rest) :
    (digits ++ rest).dropWhile isAsciiDigit = rest := by
  rw [List.dropWhile_append_of_pos h]
  cases rest with
  | nil => simp
  | cons c tail => simp [hrest c rfl]

/-- The number that digits stand for, with one more in front of them. -/
theorem foldl_digits (base start : Nat) (digits : List Char) :
    digits.foldl (fun n c => n * base + (digitIn? base c).getD 0) start =
      start * base ^ digits.length + numberOf base digits := by
  induction digits generalizing start with
  | nil => simp [numberOf]
  | cons c rest ih =>
    rw [numberOf, List.foldl_cons, List.foldl_cons, ih, ih (0 * base + _), List.length_cons]
    ring

/-- Digits in front are raised by the base once for each digit behind them. -/
theorem numberOf_append (base : Nat) (digits rest : List Char) :
    numberOf base (digits ++ rest) = numberOf base digits * base ^ rest.length +
      numberOf base rest := by
  rw [numberOf, List.foldl_append, foldl_digits]
  rfl

/-- Zeros are worth nothing. -/
theorem numberOf_zeros (count : Nat) : numberOf 10 (List.replicate count '0') = 0 := by
  induction count with
  | zero => rfl
  | succ count ih =>
    have hzero : numberOf 10 ['0'] = 0 := by decide
    rw [List.replicate_succ, ← List.singleton_append, numberOf_append, ih, hzero, Nat.zero_mul]

/-- The character of a digit stands for the digit. -/
theorem digitIn?_digitChar (h : n < 10) : digitIn? 10 n.digitChar = some n := by
  interval_cases n <;> decide

/-- **The digits of a number read back as it.** -/
theorem numberOf_toDigits (n : Nat) : numberOf 10 (Nat.toDigits 10 n) = n := by
  induction n using Nat.strongRecOn with
  | ind n ih =>
    by_cases hn : n < 10
    · simp [Nat.toDigits_of_lt_base hn, numberOf, digitIn?_digitChar hn]
    · have hlast : numberOf 10 [(n % 10).digitChar] = n % 10 := by
        simp [numberOf, digitIn?_digitChar (Nat.mod_lt n (by decide))]
      rw [Nat.toDigits_of_base_le (by decide) (Nat.not_lt.1 hn), numberOf_append,
        ih (n / 10) (Nat.div_lt_self (by omega) (by decide)), hlast, List.length_singleton]
      omega

/-- The digits of a number start with no zero, unless it is zero. -/
theorem head_toDigits_ne (hn : n ≠ 0) : (Nat.toDigits 10 n).head? ≠ some '0' := by
  induction n using Nat.strongRecOn with
  | ind n ih =>
    by_cases hlt : n < 10
    · simpa [Nat.toDigits_of_lt_base hlt] using hn
    · rw [Nat.toDigits_of_base_le (by decide) (Nat.not_lt.1 hlt), List.head?_append]
      have hhead : (Nat.toDigits 10 (n / 10)).head? ≠ none := by simp
      rw [Option.or_of_isSome (Option.isSome_iff_ne_none.2 hhead)]
      exact ih (n / 10) (Nat.div_lt_self (by omega) (by decide)) (by omega)

end LintRun.Text
