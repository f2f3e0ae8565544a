import Mathlib
import LintRun.Text.Utf8

/-!
# Proofs — Text — UTF-8

The bytes of a text are read as the text.

* `Utf8.pieces_encode`: the bytes of one character.
* `Utf8.decode_toUTF8`, `Utf8.decodeLossy_encode`: the bytes of a text.
-/

namespace LintRun.Utf8

/-! ### Bytes -/

theorem toNat_ofNat {n : Nat} (h : n < 256) : (UInt8.ofNat n).toNat = n := by
  rw [UInt8.toNat_ofNat', Nat.mod_eq_of_lt h]

/-- A byte behind the first one of a character. -/
def tailByte (k : Nat) : UInt8 := UInt8.ofNat (k % 64 + 0x80)

theorem toNat_tailByte (k : Nat) : (tailByte k).toNat = k % 64 + 128 := toNat_ofNat (by omega)

theorem isContinuation_tailByte (k : Nat) : isContinuation (tailByte k) = true := by
  simp only [isContinuation, UInt8.le_iff_toNat_le, UInt8.lt_iff_toNat_lt, toNat_tailByte,
    Bool.and_eq_true, decide_eq_true_eq, UInt8.reduceToNat]
  omega

theorem payload_tailByte (k : Nat) : payload (tailByte k) = k % 64 := by
  rw [payload, toNat_tailByte]
  omega

/-- Whether a byte lies between two others, told by numbers. -/
theorem between_iff {low high b : UInt8} :
    (decide (low ≤ b) && decide (b < high)) = true ↔
    low.toNat ≤ b.toNat ∧ b.toNat < high.toNat := by
  rw [Bool.and_eq_true, decide_eq_true_eq, decide_eq_true_eq, UInt8.le_iff_toNat_le,
    UInt8.lt_iff_toNat_lt]

/-- A byte that is at least as great as the upper one does not lie between them. -/
theorem not_between {low high b : UInt8} (h : high.toNat ≤ b.toNat) :
    ¬ (decide (low ≤ b) && decide (b < high)) = true :=
  fun hb => absurd (between_iff.1 hb).2 h.not_gt

/-- A byte that stands for no character on its own. -/
theorem not_single {b : UInt8} (h : 128 ≤ b.toNat) : ¬ b < 0x80 := fun hb =>
  absurd (UInt8.lt_iff_toNat_lt.1 hb) h.not_gt

/-! ### Characters -/

variable {a b c d : UInt8} {rest : List UInt8}

/-- A character of one byte. -/
theorem pieces_one (ha : a.toNat < 128) :
    pieces (a :: rest) = .char (Char.ofNat a.toNat) 1 :: pieces rest := by
  have hone : a < 0x80 := ha
  rw [pieces.eq_def]
  simp only [if_pos hone]

/-- A character of two bytes. -/
theorem pieces_two (ha : 194 ≤ a.toNat ∧ a.toNat < 224) (hb : isContinuation b = true) :
    pieces (a :: b :: rest) = .char (Char.ofNat (a.toNat % 32 * 64 + payload b))
      2 :: pieces rest := by
  have hone : ¬ a < 0x80 := not_single (by omega)
  have htwo : (decide (0xC2 ≤ a) && decide (a < 0xE0)) = true := between_iff.2 ha
  rw [pieces.eq_def]
  simp only [if_neg hone, if_pos htwo, if_pos hb]

/-- A character of three bytes. -/
theorem pieces_three (ha : 224 ≤ a.toNat ∧ a.toNat < 240) (hb : secondOfThree a b = true)
    (hc : isContinuation c = true) : pieces (a :: b :: c :: rest) =
      .char (Char.ofNat ((a.toNat % 16 * 64 + payload b) * 64 + payload c)) 3 :: pieces rest := by
  have hone : ¬ a < 0x80 := not_single (by omega)
  have htwo : ¬ (decide (0xC2 ≤ a) && decide (a < 0xE0)) = true := not_between ha.1
  have hthree : (decide (0xE0 ≤ a) && decide (a < 0xF0)) = true := between_iff.2 ha
  rw [pieces.eq_def]
  simp only [if_neg hone, if_neg htwo, if_pos hthree, hb, Bool.not_true, Bool.false_eq_true,
    if_false, if_pos hc]

/-- A character of four bytes. -/
theorem pieces_four (ha : 240 ≤ a.toNat ∧ a.toNat < 245) (hb : secondOfFour a b = true)
    (hc : isContinuation c = true) (hd : isContinuation d = true) :
    pieces (a :: b :: c :: d :: rest) =
      .char (Char.ofNat (((a.toNat % 8 * 64 + payload b) * 64 + payload c) * 64 + payload d))
        4 :: pieces rest := by
  have hone : ¬ a < 0x80 := not_single (by omega)
  have htwo : ¬ (decide (0xC2 ≤ a) && decide (a < 0xE0)) = true :=
    not_between (le_trans (by decide) ha.1)
  have hthree : ¬ (decide (0xE0 ≤ a) && decide (a < 0xF0)) = true := not_between ha.1
  have hfour : (decide (0xF0 ≤ a) && decide (a < 0xF5)) = true := between_iff.2 ha
  rw [pieces.eq_def]
  simp only [if_neg hone, if_neg htwo, if_neg hthree, if_pos hfour, hb, hc, Bool.not_true,
    Bool.false_eq_true, if_false, if_pos hd]

/-- **The bytes of a character are read as it.** -/
theorem pieces_encode (c : Char) (rest : List UInt8) :
    pieces (String.utf8EncodeChar c ++ rest) =
      .char c (String.utf8EncodeChar c).length :: pieces rest := by
  have hvalid : c.toNat < 0xD800 ∨ 0xDFFF < c.toNat ∧ c.toNat < 0x110000 := c.valid
  have hchar {n : Nat} (h : n = c.toNat) : Char.ofNat n = c := by rw [h, Char.ofNat_toNat]
  rw [String.utf8EncodeChar]
  simp only [show c.val.toNat = c.toNat from rfl]
  split
  · have hfirst := toNat_ofNat (show c.toNat < 256 by omega)
    rw [List.singleton_append, pieces_one (by omega), hchar hfirst]
    rfl
  split
  · have hfirst := toNat_ofNat (show c.toNat / 64 % 0x20 + 0xc0 < 256 by omega)
    show pieces (UInt8.ofNat (c.toNat / 64 % 0x20 + 0xc0) :: tailByte c.toNat :: rest) = _
    rw [pieces_two (by omega) (isContinuation_tailByte _), payload_tailByte, hfirst,
      hchar (by omega)]
    rfl
  split
  · have hfirst := toNat_ofNat (show c.toNat / 4096 % 0x10 + 0xe0 < 256 by omega)
    have hsecond : secondOfThree (UInt8.ofNat (c.toNat / 4096 % 0x10 + 0xe0))
        (tailByte (c.toNat / 64)) = true := by
      simp only [secondOfThree, isContinuation_tailByte, Bool.true_and, Bool.and_eq_true,
        Bool.not_eq_true', Bool.and_eq_false_iff, beq_eq_false_iff_ne, decide_eq_false_iff_not,
        ne_eq, ← UInt8.toNat_inj, UInt8.lt_iff_toNat_lt, UInt8.le_iff_toNat_le, hfirst,
        toNat_tailByte, UInt8.reduceToNat]
      omega
    show pieces (UInt8.ofNat (c.toNat / 4096 % 0x10 + 0xe0) :: tailByte (c.toNat / 64) ::
      tailByte c.toNat :: rest) = _
    rw [pieces_three (by omega) hsecond (isContinuation_tailByte _), payload_tailByte,
      payload_tailByte, hfirst, hchar (by omega)]
    rfl
  · have hfirst := toNat_ofNat (show c.toNat / 262144 % 0x08 + 0xf0 < 256 by omega)
    have hsecond : secondOfFour (UInt8.ofNat (c.toNat / 262144 % 0x08 + 0xf0))
        (tailByte (c.toNat / 4096)) = true := by
      simp only [secondOfFour, isContinuation_tailByte, Bool.true_and, Bool.and_eq_true,
        Bool.not_eq_true', Bool.and_eq_false_iff, beq_eq_false_iff_ne, decide_eq_false_iff_not,
        ne_eq, ← UInt8.toNat_inj, UInt8.lt_iff_toNat_lt, UInt8.le_iff_toNat_le, hfirst,
        toNat_tailByte, UInt8.reduceToNat]
      omega
    show pieces (UInt8.ofNat (c.toNat / 262144 % 0x08 + 0xf0) :: tailByte (c.toNat / 4096) ::
      tailByte (c.toNat / 64) ::
      tailByte c.toNat :: rest) = _
    rw [pieces_four (by omega) hsecond (isContinuation_tailByte _) (isContinuation_tailByte _),
      payload_tailByte, payload_tailByte, payload_tailByte, hfirst, hchar (by omega)]
    rfl

/-! ### Texts -/

theorem collect_pieces_encode (text : List Char) (position : Nat) :
    collect position (pieces (text.flatMap String.utf8EncodeChar)) = .ok text := by
  induction text generalizing position with
  | nil => simp [pieces, collect]
  | cons c rest ih =>
    rw [List.flatMap_cons, pieces_encode, collect, ih]
    rfl

theorem toList_loop (bytes : ByteArray) (i : Nat) (r : List UInt8) :
    ByteArray.toList.loop bytes i r = r.reverse ++ bytes.data.toList.drop i := by
  fun_induction ByteArray.toList.loop bytes i r with
  | case1 i r hi ih =>
    have hlength : i < bytes.data.toList.length := hi
    have hget : bytes.get! i = bytes.data.toList[i] := by
      rw [ByteArray.get!, getElem!_pos bytes.data i hi, Array.getElem_toList]
    rw [ih, hget, List.reverse_cons, List.append_assoc, List.singleton_append,
      List.getElem_cons_drop]
  | case2 i r hi =>
    have hlength : bytes.data.toList.length ≤ i := Nat.not_lt.1 hi
    rw [List.drop_of_length_le hlength, List.append_nil]

theorem toList_eq (bytes : ByteArray) : bytes.toList = bytes.data.toList := by
  rw [ByteArray.toList, toList_loop]
  simp

theorem toList_toUTF8 (s : String) : s.toUTF8.toList = s.toList.flatMap String.utf8EncodeChar := by
  rw [toList_eq, String.toUTF8_eq_toByteArray, ← String.utf8Encode_toList, List.utf8Encode,
    List.toList_data_toByteArray]

/-- **The bytes of a text are read as the text.** -/
theorem decode_toUTF8 (s : String) : decode s.toUTF8.toList = .ok s.toList := by
  rw [decode, toList_toUTF8, collect_pieces_encode]

/-- Nothing is replaced in it. -/
theorem decodeLossy_encode (text : List Char) :
    decodeLossy (text.flatMap String.utf8EncodeChar) = text := by
  induction text with
  | nil => simp [decodeLossy, pieces]
  | cons c rest ih =>
    rw [decodeLossy] at ih ⊢
    rw [List.flatMap_cons, pieces_encode, List.map_cons, ih]

end LintRun.Utf8
