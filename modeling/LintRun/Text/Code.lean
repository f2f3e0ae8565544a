import LintRun.Text.Lower
import LintRun.Text.Quoted

/-!
# Text — Code points

A text as code points. Not each of them needs to be a character: an escape may name one half of a surrogate pair that
stands alone.

* `charsOf?`: the characters, if all code points are some.
* `quoteCodes`: the text between quotes; half a pair is always escaped.
* `RawText`: a text of characters, or code points some of which are none.
* `RawText.units`, `RawText.ofCodes`: its code points, and the text that has them.
-/

namespace LintRun

namespace Text

/-- A text as code points. -/
abbrev Codes := List Nat

/-- Whether a code point is half a pair, and no character. -/
def isSurrogate (n : Nat) : Bool := 0xD800 ≤ n && n < 0xE000

def codesOf (text : List Char) : Codes := text.map Char.toNat

/-- The characters of a text, if all its code points are characters. -/
def charsOf? (codes : Codes) : Option (List Char) :=
  if codes.any isSurrogate then none else some (codes.map Char.ofNat)

theorem isSurrogate_toNat (c : Char) : isSurrogate c.toNat = false := by
  have hvalid : c.toNat < 0xD800 ∨ 0xDFFF < c.toNat ∧ c.toNat < 0x110000 := c.valid
  rw [isSurrogate, Bool.and_eq_false_iff, decide_eq_false_iff_not, decide_eq_false_iff_not]
  omega

/-- Characters are found again in their code points. -/
theorem charsOf?_codesOf (text : List Char) : charsOf? (codesOf text) = some text := by
  have hnone : (codesOf text).any isSurrogate = false := by
    simp [codesOf, isSurrogate_toNat]
  rw [charsOf?, hnone, codesOf, List.map_map]
  simp [Function.comp_def]

theorem charsOf?_eq_none_iff {codes : Codes} : charsOf? codes = none ↔ codes.any isSurrogate = true := by
  simp [charsOf?]

theorem charsOf?_cons (c : Char) (codes : Codes) : charsOf? (c.toNat :: codes) = (charsOf? codes).map (c :: ·) := by
  rw [charsOf?, charsOf?, List.any_cons, isSurrogate_toNat, Bool.false_or, List.map_cons, Char.ofNat_toNat]
  split <;> rfl

/-- The characters of a text, with a mark in the place of each half pair. -/
def shownChars (codes : Codes) : List Char :=
  codes.map fun n => if isSurrogate n then '\uFFFD' else Char.ofNat n

/-- A text in small letters. -/
def lowerCodes (codes : Codes) : Codes :=
  match charsOf? codes with
  | some text => codesOf (lower text)
  | none => codes.flatMap fun n => if isSurrogate n then [n] else codesOf (smallLetters (Char.ofNat n))

/-- One code point between the quotes `mark`. -/
def quoteCode (mark : Char) (n : Nat) : List Char :=
  if isSurrogate n then '\\' :: 'u' :: hexText 4 n else quoteChar mark (Char.ofNat n)

/-- The text between quotes. -/
def quoteCodes (codes : Codes) : List Char :=
  let mark := quoteMark (shownChars codes)
  mark :: (codes.flatMap (quoteCode mark) ++ [mark])

end Text

/-! ### Texts with half pairs -/

/-- A text as a document or a caller gives it: characters, or code points of which some are no characters. -/
inductive RawText
  | plain (text : String)
  | codes (units : Text.Codes) (h : Text.charsOf? units = none)
  deriving DecidableEq, Repr

instance : Coe String RawText := ⟨.plain⟩

namespace RawText

/-- The text with these code points. -/
def ofCodes (units : Text.Codes) : RawText :=
  match h : Text.charsOf? units with
  | some text => .plain (String.ofList text)
  | none => .codes units h

def units : RawText → Text.Codes
  | .plain text => Text.codesOf text.toList
  | .codes units _ => units

/-- The text with a mark in the place of each half pair. -/
def shown : RawText → String
  | .plain text => text
  | .codes units _ => String.ofList (Text.shownChars units)

def append : RawText → RawText → RawText
  | .plain s, .plain t => .plain (s ++ t)
  | s, t => .ofCodes (s.units ++ t.units)

instance : Append RawText := ⟨append⟩

/-- The texts with a separator between each two. -/
def joinWith (separator : RawText) : List RawText → RawText
  | [] => .plain ""
  | [t] => t
  | s :: t :: rest => s ++ separator ++ joinWith separator (t :: rest)

def startsWith (t start : RawText) : Bool := start.units.isPrefixOf t.units

variable {units : Text.Codes}

theorem ofCodes_of_some {text : List Char} (h : Text.charsOf? units = some text) :
    ofCodes units = .plain (String.ofList text) := by
  unfold ofCodes
  split <;> simp_all

theorem ofCodes_of_none (h : Text.charsOf? units = none) : ofCodes units = .codes units h := by
  unfold ofCodes
  split <;> simp_all

/-- **A text is found again in its code points.** -/
theorem ofCodes_units (t : RawText) : ofCodes t.units = t := by
  cases t with
  | plain text => rw [units, ofCodes_of_some (Text.charsOf?_codesOf _), String.ofList_toList]
  | codes units h => exact ofCodes_of_none h

theorem units_injective {s t : RawText} (h : s.units = t.units) : s = t := by
  rw [← ofCodes_units s, ← ofCodes_units t, h]

theorem units_ofCodes_append (s t : RawText) (h : Text.charsOf? s.units = none ∨ Text.charsOf? t.units = none) :
    (ofCodes (s.units ++ t.units)).units = s.units ++ t.units := by
  have hnone : Text.charsOf? (s.units ++ t.units) = none := by
    simpa [Text.charsOf?_eq_none_iff, or_comm] using h
  rw [ofCodes_of_none hnone, units]

/-- The code points of a text after another one. -/
theorem units_append (s t : RawText) : (s ++ t).units = s.units ++ t.units := by
  cases s with
  | codes u h => exact units_ofCodes_append (.codes u h) t (.inl h)
  | plain a =>
    cases t with
    | codes u h => exact units_ofCodes_append (.plain a) (.codes u h) (.inr h)
    | plain b =>
      show Text.codesOf (a ++ b).toList = Text.codesOf a.toList ++ Text.codesOf b.toList
      rw [String.toList_append, Text.codesOf, List.map_append, Text.codesOf, Text.codesOf]

/-- A character in front of a text. -/
theorem ofCodes_cons (c : Char) (units : Text.Codes) :
    ofCodes (c.toNat :: units) = .plain (String.singleton c) ++ ofCodes units := by
  cases h : Text.charsOf? units with
  | some text =>
    rw [ofCodes_of_some h, ofCodes_of_some (by rw [Text.charsOf?_cons, h, Option.map_some])]
    refine congrArg plain (String.toList_inj.1 ?_)
    rw [String.toList_append, String.toList_ofList, String.toList_ofList, String.toList_singleton,
      List.singleton_append]
  | none =>
    rw [ofCodes_of_none h]
    show _ = ofCodes (Text.codesOf (String.singleton c).toList ++ units)
    rw [String.toList_singleton]
    rfl

end RawText
end LintRun
