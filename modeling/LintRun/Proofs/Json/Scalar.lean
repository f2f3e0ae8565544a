import Mathlib
import LintRun.Json.Printer
import LintRun.Json.Reader
import LintRun.Proofs.Decimal.Layout

/-!
# Proofs — Json — Texts and numbers

Texts and numbers that are printed are read as they are.

* `Value.ofCodes_codesOf`: the code points of a text stand for it.
* `Json.readChars_escaped`: one character.
* `Json.readChars_flatMap`: a text that is printed between quotes.
* `Json.EndsNumber`: what may follow a number.
* `Json.readNumber_toString`: integers.
* `Json.readNumber_dataText`: finite numbers with a point or an exponent.
-/

namespace LintRun

/-- The code points of a text stand for it. -/
theorem Value.ofCodes_codesOf (s : String) : ofCodes (Text.codesOf s.toList) = .str s :=
  congrArg ofText (RawText.ofCodes_units (.plain s))

namespace Json

variable {c : Char} {start : Nat} {rest : List Char}

/-- The escape of a control character by its number. -/
theorem hexUnit?_control {n : Nat} (h : n < 32) :
    hexUnit? '0' '0' (Nat.digitChar (n / 16)) (Nat.digitChar (n % 16)) = some n := by
  interval_cases n <;> decide

/-- A character is escaped by a letter, by its number, or not at all. -/
theorem escaped_cases (c : Char) :
    (∃ letter, letter ≠ 'u' ∧ escapeChar? letter = some c ∧ escaped c = ['\\', letter]) ∨
    (c.toNat < 32 ∧
      escaped c = ['\\', 'u', '0', '0', Nat.digitChar (c.toNat / 16),
        Nat.digitChar (c.toNat % 16)]) ∨
    (c ≠ '"' ∧ c ≠ '\\' ∧ ¬ c.toNat < 32 ∧ escaped c = [c]) := by
  by_cases hletter : c ∈ ['"', '\\', '\n', '\r', '\t', '\x08', '\x0c']
  · simp only [List.mem_cons, List.not_mem_nil, or_false] at hletter
    rcases hletter with rfl | rfl | rfl | rfl | rfl | rfl | rfl <;>
      exact .inl ⟨_, by decide, rfl, rfl⟩
  · simp only [List.mem_cons, List.not_mem_nil, or_false, not_or] at hletter
    by_cases hcontrol : c.toNat < 32
    · exact .inr (.inl ⟨hcontrol, by simp [escaped, hletter, hcontrol]⟩)
    · exact .inr (.inr ⟨hletter.1, hletter.2.1, hcontrol, by simp [escaped, hletter, hcontrol]⟩)

/-- **A character that is printed is read as it is.** Something has to follow it. -/
theorem readChars_escaped (start : Nat) (c : Char) (hrest : rest ≠ []) :
    readChars start (escaped c ++ rest) = (readChars start rest).map
      fun (cs, r) => (c.toNat :: cs, r) := by
  rcases escaped_cases c with ⟨letter, hu, hletter, h⟩ | ⟨hcontrol, h⟩ |
    ⟨hquote, hslash, hcontrol, h⟩ <;> rw [h]
  · simp [readChars, hletter]
  · have hhigh : isHighSurrogate c.toNat = false := by
      simp [isHighSurrogate]
      omega
    simp [readChars, hexUnit?_control hcontrol, hrest, hhigh]
  · simp [readChars, hcontrol]

/-- **A text that is printed is read as it is**, up to its closing quote. -/
theorem readChars_flatMap (start : Nat) (text rest : List Char) :
    readChars start (text.flatMap escaped ++ '"' :: rest) = .ok (Text.codesOf text, rest) := by
  induction text with
  | nil => simp [readChars, Text.codesOf]
  | cons c text ih =>
    rw [List.flatMap_cons, List.append_assoc, readChars_escaped start c (by simp), ih]
    rfl

theorem quoted_append (s : String) (next : List Char) :
    quoted s ++ next = '"' :: (s.toList.flatMap escaped ++ '"' :: next) := by
  simp [quoted]

/-- No carriage return stands in a text between quotes. -/
theorem return_notMem_quoted (s : String) : '\r' ∉ quoted s := by
  have hescaped (c : Char) : '\r' ∉ escaped c := by
    rcases escaped_cases c with ⟨letter, -, hletter, h⟩ | ⟨hcontrol, h⟩ | ⟨-, -, hcontrol, h⟩ <;>
      rw [h]
    · have : letter ≠ '\r' := by
        rintro rfl
        cases hletter
      simp [this.symm]
    · have hlow : ∀ n < 32, '\r' ∉ ['\\', 'u', '0', '0', Nat.digitChar (n / 16),
          Nat.digitChar (n % 16)] := by decide
      exact hlow c.toNat hcontrol
    · have : c ≠ '\r' := by
        rintro rfl
        exact hcontrol (by decide)
      simp [this.symm]
  simp [quoted, hescaped]

end Json
end LintRun

namespace LintRun.Json

open Text Binary64

variable {text rest whole fraction : List Char} {exponent : Option Int}
  {negative : Bool} {x : Binary64}

/-- A text that no part of a number stands in front of. -/
def EndsNumber (rest : List Char) : Prop :=
  ∀ c ∈ rest.head?, isAsciiDigit c = false ∧ c ≠ '.' ∧ c ≠ 'e' ∧ c ≠ 'E'

theorem EndsNumber.endsDigits (h : EndsNumber rest) : EndsDigits rest := fun c hc => (h c hc).1

/-! ### The parts of a number -/

theorem wholeDigits_append (h : IsWhole whole) (hrest : EndsDigits rest) :
    wholeDigits (whole ++ rest) = (whole, rest) := by
  obtain ⟨hne, hdigits, hzero⟩ := h
  obtain ⟨c, digits, rfl⟩ := List.exists_cons_of_ne_nil hne
  by_cases hc : c = '0'
  · rw [hzero (by rw [hc]; rfl)]
    rfl
  · have hread : wholeDigits (c :: digits ++ rest) =
        ((c :: digits ++ rest).takeWhile isAsciiDigit,
          (c :: digits ++ rest).dropWhile isAsciiDigit) := by
      rw [wholeDigits.eq_2]
      simpa using hc
    rw [hread, takeWhile_isAsciiDigit hdigits hrest, dropWhile_isAsciiDigit hdigits hrest]

theorem fractionDigits_append (h : IsDigits fraction) (hrest : EndsDigits rest)
    (hpoint : rest.head? ≠ some '.') :
    fractionDigits ((if fraction = [] then [] else '.' :: fraction) ++ rest) =
      (fraction, rest) := by
  cases fraction with
  | nil =>
    rw [if_pos rfl, List.nil_append, fractionDigits]
    rintro tail rfl
    exact hpoint rfl
  | cons c digits =>
    rw [if_neg (List.cons_ne_nil c digits), List.cons_append, fractionDigits,
      takeWhile_isAsciiDigit h hrest, dropWhile_isAsciiDigit h hrest]

/-- The digits of an exponent. -/
theorem exponentText_eq (e : Int) :
    ∃ digits, exponentText e = 'e' :: (if e < 0 then '-' else '+') :: digits ∧
    digits ≠ [] ∧ IsDigits digits ∧ numberOf 10 digits = e.natAbs := by
  refine ⟨_, rfl, ?_, ?_, ?_⟩
  · split <;> simp [digitsText]
  · split
    · exact (isDigits_zeros 1).append (isDigits_toDigits e.natAbs)
    · exact isDigits_toDigits e.natAbs
  · split
    · have hzero : numberOf 10 ['0'] = 0 := by decide
      rw [← List.singleton_append, numberOf_append, hzero, digitsText, numberOf_toDigits,
        Nat.zero_mul, Nat.zero_add]
    · rw [digitsText, numberOf_toDigits]

/-- A number is its magnitude with its sign. -/
theorem signed_natAbs (i : Int) :
    (if decide (i < 0) = true then -(i.natAbs : Int) else i.natAbs) = i := by
  split
  · next h =>
    have := of_decide_eq_true h
    omega
  · next h =>
    have : ¬ i < 0 := fun hi => h (decide_eq_true hi)
    omega

theorem exponentPart_exponentText (e : Int) (hrest : EndsDigits rest) :
    exponentPart (exponentText e ++ rest) = (some e, rest) := by
  obtain ⟨digits, htext, hne, hdigits, hnumber⟩ := exponentText_eq e
  have hsign : takeSign ((if e < 0 then '-' else '+') :: (digits ++ rest)) =
      (decide (e < 0), digits ++ rest) := by
    by_cases he : e < 0 <;> simp [takeSign, he]
  rw [htext, List.cons_append, List.cons_append, exponentPart]
  simp only [hsign, takeWhile_isAsciiDigit hdigits hrest, dropWhile_isAsciiDigit hdigits hrest]
  cases digits with
  | nil => exact absurd rfl hne
  | cons c more =>
    simp only [hnumber, signed_natAbs, decide_true, Bool.true_or, if_true]

theorem exponentPart_of_endsNumber (h : EndsNumber rest) : exponentPart rest = (none, rest) := by
  cases rest with
  | nil => rfl
  | cons c tail =>
    obtain ⟨-, -, he, hE⟩ := h c rfl
    rw [exponentPart, if_neg (by simp [he, hE])]

theorem exponentPart_append (h : EndsNumber rest) (exponent : Option Int) :
    exponentPart ((exponent.map exponentText).getD [] ++ rest) = (exponent, rest) := by
  cases exponent with
  | none => exact exponentPart_of_endsNumber h
  | some e => exact exponentPart_exponentText e h.endsDigits

/-! ### Numbers -/

/-- A number with its sign in front of it. -/
def signed (negative : Bool) (text : List Char) : List Char :=
  if negative then '-' :: text else text

theorem signed_setOut (negative : Bool) (whole fraction : List Char) (exponent : Option Int) :
    signed negative (setOut whole fraction exponent) = signed negative whole ++
      ((if fraction = [] then [] else '.' :: fraction) ++ (exponent.map exponentText).getD []) := by
  cases negative <;> simp [signed, setOut]

/-- What is read as a number, told from what its parts are read as. -/
theorem readNumber_signed {tail : List Char} (h : IsWhole whole) (htext : EndsDigits text)
    (hfraction : fractionDigits text = (fraction, tail))
    (hexponent : exponentPart tail = (exponent, rest)) (negative : Bool) :
    readNumber (signed negative whole ++ text) =
      if fraction = [] ∧ exponent = none then (integer negative whole).map (·, rest)
      else .ok (.float (Numeral.value ⟨negative, whole, fraction, exponent.getD 0⟩), rest) := by
  obtain ⟨c, digits, rfl⟩ := List.exists_cons_of_ne_nil h.1
  have hc : c ≠ '-' := by
    rintro rfl
    exact absurd (h.2.1 '-' List.mem_cons_self) (by decide)
  have hunsigned (rest : List Char) : c :: digits ++ text ≠ '-' :: rest :=
    fun hrest => hc (List.cons.inj hrest).1
  cases negative with
  | true =>
    rw [show signed true (c :: digits) ++ text = '-' :: (c :: digits ++ text) from rfl, readNumber]
    simp only [wholeDigits_append h htext, hfraction, hexponent]
    cases fraction <;> cases exponent <;> simp
  | false =>
    rw [show signed false (c :: digits) ++ text = c :: digits ++ text from rfl,
      readNumber.eq_2 _ hunsigned]
    simp only [wholeDigits_append h htext, hfraction, hexponent]
    cases fraction <;> cases exponent <;> simp

/-- An exponent starts with no digit and no point. -/
theorem endsDigits_exponent (h : EndsNumber rest) (exponent : Option Int) :
    EndsDigits ((exponent.map exponentText).getD [] ++ rest) ∧
      ((exponent.map exponentText).getD [] ++ rest).head? ≠ some '.' := by
  cases exponent with
  | none => exact ⟨h.endsDigits, fun hpoint => (h '.' hpoint).2.1 rfl⟩
  | some e => exact ⟨fun c hc => by cases hc; rfl, by simp [exponentText]⟩

/-- **A number with a point or an exponent is read as its value.** -/
theorem readNumber_setOut {value : ℚ} (h : SetsOut whole fraction exponent value)
    (hrest : EndsNumber rest) (negative : Bool) :
    readNumber (signed negative (setOut whole fraction exponent) ++ rest) =
      .ok (.float (Numeral.value ⟨negative, whole, fraction, exponent.getD 0⟩), rest) := by
  obtain ⟨hdigits, hpoint⟩ := endsDigits_exponent hrest exponent
  have hstart : EndsDigits ((if fraction = [] then [] else '.' :: fraction) ++
      ((exponent.map exponentText).getD [] ++ rest)) := by
    split
    · exact hdigits
    · rintro c ⟨⟩
      rfl
  have hnumber : ¬ (fraction = [] ∧ exponent = none) := by
    rintro ⟨rfl, rfl⟩
    simpa using h.isNumber
  rw [signed_setOut, List.append_assoc, List.append_assoc,
    readNumber_signed h.isWhole hstart (fractionDigits_append h.isFraction hdigits hpoint)
      (exponentPart_append hrest exponent), if_neg hnumber]

theorem toList_toString (i : Int) :
    (toString i).toList = signed (decide (i < 0)) (Nat.toDigits 10 i.natAbs) := by
  rw [Int.toString_eq_repr, Int.repr_eq_if]
  by_cases hi : 0 ≤ i
  · rw [if_pos hi, Nat.toList_repr, show i.natAbs = i.toNat by omega, decide_eq_false (by omega)]
    rfl
  · rw [if_neg hi, String.toList_append, Nat.toList_repr, show i.natAbs = (-i).toNat by omega,
      decide_eq_true (by omega)]
    rfl

/-- **An integer of few enough digits is read as it is.** -/
theorem readNumber_toString {i : Int} (hdigits : i.natAbs < 10 ^ digitLimit)
    (hrest : EndsNumber rest) :
    readNumber ((toString i).toList ++ rest) = .ok (.int i, rest) := by
  have hlength : (Nat.toDigits 10 i.natAbs).length ≤ digitLimit :=
    (Nat.length_toDigits_le_iff (by decide) (by decide)).2 hdigits
  have hpoint : rest.head? ≠ some '.' := fun hpoint => (hrest '.' hpoint).2.1 rfl
  have hempty : IsDigits [] := by simp [IsDigits]
  have hnone : fractionDigits rest = ([], rest) :=
    fractionDigits_append hempty hrest.endsDigits hpoint
  rw [toList_toString,
    readNumber_signed (isWhole_toDigits i.natAbs) hrest.endsDigits hnone
      (exponentPart_of_endsNumber hrest),
    if_pos ⟨rfl, rfl⟩, integer, if_neg (Nat.not_lt.2 hlength)]
  simp only [numberOf_toDigits, signed_natAbs]
  rfl

/-- A finite number is a numeral with a point or an exponent. -/
theorem exists_setsOut_dataText {m : Nat} {e : Int} (hx : x.view = .finite negative m e) :
    ∃ whole fraction exponent,
      x.dataText.toList = signed negative (setOut whole fraction exponent) ∧
      SetsOut whole fraction exponent (x.shortest m e).value := by
  obtain ⟨whole, fraction, exponent, htext, hsets⟩ := exists_setsOut_writeDigits (x.shortest m e)
  refine ⟨whole, fraction, exponent, ?_, hsets⟩
  rw [dataText, Layout.write, hx]
  simp [htext, signed]

/-- **A finite number is read as it is.** -/
theorem readNumber_dataText {m : Nat} {e : Int} (hx : x.view = .finite negative m e)
    (hrest : EndsNumber rest) :
    readNumber (x.dataText.toList ++ rest) = .ok (.float x, rest) := by
  obtain ⟨whole, fraction, exponent, htext, hsets⟩ := exists_setsOut_dataText hx
  have hvalue : Numeral.value ⟨negative, whole, fraction, exponent.getD 0⟩ = x := by
    rw [← rounded_shortest hx]
    exact ofDecimal_congr hsets.hasValue negative
  rw [htext, readNumber_setOut hsets hrest, hvalue]

end LintRun.Json
