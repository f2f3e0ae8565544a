import Mathlib
import LintRun.Proofs.Failure.Outcome
import LintRun.Proofs.Json.Scalar
import LintRun.Proofs.Value.Keys

/-!
# Proofs — Json — What is printed reads back

* `Json.IsData`: the values that JSON has a form for.
* `Json.ReadsBack`: a value that is read as it is printed, whatever follows it.
* `Json.IsData.readsBack`: every such value is.
* `Json.read_print`: a whole text.
-/

namespace LintRun

/-- A text that is no key yet is entered behind the others. -/
theorem Value.insertEntry_of_notMem {fields : List (String × Value)} {key : String}
    (h : key ∉ fields.map Prod.fst) (v : Value) :
    insertEntry (.str key) v (entriesWith fields) = entriesWith fields ++ [(.str key, v)] := by
  induction fields with
  | nil => rfl
  | cons field rest ih =>
    rw [List.map_cons, List.mem_cons, not_or] at h
    have hkey : sameKey (.str field.1) (.str key) = false := by
      simpa [sameKey, sameScalar, scaledNumber?] using Ne.symm h.1
    rw [entriesWith_cons, insertEntry, hkey, ih h.2]
    rfl

/-- Entries with different texts as keys are a mapping as they stand. -/
theorem Value.entriesOf_of_nodup {fields : List (String × Value)}
    (h : (fields.map Prod.fst).Nodup) :
    entriesOf (entriesWith fields) = entriesWith fields := by
  -- entries are put in from the first to the last, so the induction takes them off at the end
  induction fields using List.reverseRecOn with
  | nil => rfl
  | append_singleton fields field ih =>
    rw [List.map_append, List.nodup_append] at h
    obtain ⟨hfields, -, hdisjoint⟩ := h
    have hnew : field.1 ∉ fields.map Prod.fst :=
      fun hmem => hdisjoint field.1 hmem field.1 (by simp) rfl
    have hbefore := ih hfields
    rw [entriesOf] at hbefore
    rw [entriesOf, entriesWith_append, List.foldl_append, hbefore]
    exact insertEntry_of_notMem hnew field.2

namespace Json

open Text Value

variable {style : Style} {depth fuel : Nat} {text rest blank closing : List Char} {v : Value}
  {items : List Value}
  {fields : List (String × Value)} {c : Char}

/-! ### Spaces -/

/-- A text of spaces and line ends. -/
def IsBlank (text : List Char) : Prop := ∀ c ∈ text, isSpace c = true

/-- Blanks in front of something else are passed over. -/
theorem skipSpace_append (h : IsBlank text) (hc : isSpace c = false) :
    skipSpace (text ++ c :: rest) = c :: rest := by
  rw [skipSpace, List.dropWhile_append_of_pos h]
  simp [hc]

theorem skipSpace_cons (hc : isSpace c = false) : skipSpace (c :: rest) = c :: rest :=
  skipSpace_append (show IsBlank [] by simp [IsBlank]) hc

/-- A line starts with blanks. -/
theorem isBlank_lineStart (style : Style) (depth : Nat) : IsBlank (style.lineStart depth) := by
  cases style with
  | oneLine => simp [IsBlank, Style.lineStart]
  | indented width =>
    intro c hc
    rcases List.mem_cons.1 hc with rfl | hc
    · rfl
    · rw [List.eq_of_mem_replicate hc]
      rfl

/-- Items are told apart by a comma and blanks. -/
theorem between_eq (style : Style) (depth : Nat) :
    ∃ blank, style.between depth = ',' :: blank ∧ IsBlank blank := by
  cases style with
  | oneLine => exact ⟨[' '], rfl, by simp [IsBlank, isSpace]⟩
  | indented width => exact ⟨_, rfl, isBlank_lineStart (.indented width) depth⟩

/-- A number ends where a space or the end of a list or mapping stands. -/
theorem endsNumber_append (h : IsBlank text) (hc : c = ',' ∨ c = ']' ∨ c = '\x7d') :
    EndsNumber (text ++ c :: rest) := by
  intro first hfirst
  cases text with
  | nil =>
    obtain rfl : c = first := by simpa using hfirst
    rcases hc with rfl | rfl | rfl <;> decide
  | cons blank more =>
    obtain rfl : blank = first := by simpa using hfirst
    have hspace := h blank List.mem_cons_self
    simp only [isSpace, Bool.or_eq_true, decide_eq_true_eq] at hspace
    rcases hspace with ((rfl | rfl) | rfl) | rfl <;> decide

theorem endsNumber_comma (rest : List Char) : EndsNumber (',' :: rest) :=
  endsNumber_append (show IsBlank [] by simp [IsBlank]) (.inl rfl)

/-! ### Values -/

/-- The values that JSON has a form for: no number but the one that stands for what is none may be
none, and integers have few enough digits. -/
inductive IsData : Value → Prop
  | null : IsData .null
  | bool (b : Bool) : IsData (.bool b)
  | int {i : Int} (h : i.natAbs < 10 ^ digitLimit) : IsData (.int i)
  | float {x : Binary64} (h : x.view = .nan → x = Binary64.nan) : IsData (.float x)
  | str (s : String) : IsData (.str s)
  | list {items : List Value} (h : ∀ v ∈ items, IsData v) : IsData (.list items)
  | map {fields : List (String × Value)} (hkeys : (fields.map Prod.fst).Nodup)
      (h : ∀ f ∈ fields, IsData f.2) :
    IsData (.map (entriesWith fields))

theorem IsData.of_lt_ten {n : Nat} (h : n < 10) : IsData (.int n) :=
  .int (h.trans_le (Nat.le_self_pow (by decide) 10))

/-- A text that starts like a value, and not like the end of a list or mapping, or with a byte order
mark. -/
def StartsValue (text : List Char) : Prop :=
  ∃ c more, text = c :: more ∧ isSpace c = false ∧ c ∉ [']', '\x7d', '\uFEFF']

theorem StartsValue.append (h : StartsValue text) (rest : List Char) :
    StartsValue (text ++ rest) := by
  obtain ⟨c, more, rfl, hspace, hend⟩ := h
  exact ⟨c, more ++ rest, rfl, hspace, hend⟩

/-- Blanks in front of a value are passed over. -/
theorem StartsValue.skipSpace (h : StartsValue rest) (htext : IsBlank text) :
    skipSpace (text ++ rest) = rest := by
  obtain ⟨c, more, rfl, hspace, -⟩ := h
  exact skipSpace_append htext hspace

/-- A value is read as it is printed, whatever follows it, with fuel for two values a character. No
carriage return is printed, so a text is not changed where it is read. -/
structure ReadsBack (v : Value) : Prop where
  starts (style : Style) (depth : Nat) : StartsValue (printAt style depth v)
  reads (style : Style) (depth : Nat) {fuel : Nat} {rest : List Char}
    (hfuel : 2 * (printAt style depth v).length ≤ fuel + 1) (hrest : EndsNumber rest) :
    readValue (fuel + 1) (printAt style depth v ++ rest) = .ok (v, rest)
  plain (style : Style) (depth : Nat) : '\r' ∉ printAt style depth v

theorem ReadsBack.readValue_eq (h : ReadsBack v) (style : Style) (depth : Nat)
    (hfuel : 2 * (printAt style depth v).length ≤ fuel) (hrest : EndsNumber rest) :
    readValue fuel (printAt style depth v ++ rest) = .ok (v, rest) := by
  have hlength : 0 < (printAt style depth v).length := by
    obtain ⟨c, more, htext, -⟩ := h.starts style depth
    rw [htext]
    exact Nat.succ_pos _
  obtain ⟨fuel, rfl⟩ : ∃ k, fuel = k + 1 := ⟨fuel - 1, by omega⟩
  exact h.reads style depth (by omega) hrest

/-! ### Scalars -/

/-- A text that starts like a number: with a digit, which may have a sign in front of it. -/
def StartsNumber (text : List Char) : Prop :=
  ∃ c more, isAsciiDigit c = true ∧ (text = c :: more ∨ text = '-' :: c :: more)

/-- A number starts as numbers do, with a sign or without one. -/
theorem startsNumber_signed {whole : List Char} (h : Binary64.IsWhole whole) (negative : Bool)
    (text : List Char) :
    StartsNumber (signed negative whole ++ text) := by
  obtain ⟨c, digits, rfl⟩ := List.exists_cons_of_ne_nil h.1
  refine ⟨c, digits ++ text, h.2.1 c List.mem_cons_self, ?_⟩
  cases negative with
  | true => exact .inr rfl
  | false => exact .inl rfl

theorem StartsNumber.startsValue (h : StartsNumber text) : StartsValue text := by
  obtain ⟨c, more, hc, rfl | rfl⟩ := h
  · refine ⟨c, more, rfl, ?_, ?_⟩
    · by_contra hspace
      simp only [isSpace, Bool.not_eq_false, Bool.or_eq_true, decide_eq_true_eq] at hspace
      rcases hspace with ((rfl | rfl) | rfl) | rfl <;> cases hc
    · simp only [List.mem_cons, List.not_mem_nil, or_false]
      rintro (rfl | rfl | rfl) <;> cases hc
  · exact ⟨'-', _, rfl, rfl, by decide⟩

/-- No word starts like a number. -/
theorem StartsNumber.readWord?_eq_none (h : StartsNumber text) : readWord? text = none := by
  obtain ⟨c, more, hc, rfl | rfl⟩ := h
  · have hne (letter : Char) (h : isAsciiDigit letter = false) : letter ≠ c := by
      rintro rfl
      cases hc.symm.trans h
    simp [readWord?, words, hne 'n' rfl, hne 't' rfl, hne 'f' rfl, hne 'N' rfl, hne 'I' rfl,
      hne '-' rfl]
  · have hI : 'I' ≠ c := by
      rintro rfl
      cases hc
    simp [readWord?, words, hI]

/-- What starts as a number is read as one. -/
theorem readValue_of_startsNumber (h : StartsNumber text) (fuel : Nat) :
    readValue (fuel + 1) text = readNumber text := by
  have hnone := h.readWord?_eq_none
  obtain ⟨c, more, hc, rfl | rfl⟩ := h
  · rw [readValue]
    · rw [hnone]
    all_goals
      rintro rest ⟨⟩
      cases hc
  · rw [readValue] <;> simp [hnone]

/-- A value that a word stands for. -/
theorem readsBack_of_word {word : List Char} (hword : (word, v) ∈ words)
    (hprint : ∀ style depth, printAt style depth v = word) : ReadsBack v := by
  simp only [words, List.mem_cons, Prod.mk.injEq, List.not_mem_nil, or_false] at hword
  constructor <;> intro style depth <;> rw [hprint]
  · rcases hword with ⟨rfl, -⟩ | ⟨rfl, -⟩ | ⟨rfl, -⟩ | ⟨rfl, -⟩ | ⟨rfl, -⟩ | ⟨rfl, -⟩ <;>
      exact ⟨_, _, rfl, rfl, by decide⟩
  · intro fuel rest _ _
    rcases hword with ⟨rfl, rfl⟩ | ⟨rfl, rfl⟩ | ⟨rfl, rfl⟩ | ⟨rfl, rfl⟩ |
      ⟨rfl, rfl⟩ | ⟨rfl, rfl⟩ <;> rfl
  · rcases hword with ⟨rfl, -⟩ | ⟨rfl, -⟩ | ⟨rfl, -⟩ | ⟨rfl, -⟩ | ⟨rfl, -⟩ | ⟨rfl, -⟩ <;> decide

/-- A value that is printed as a number. -/
theorem readsBack_of_number (hprint : ∀ style depth, printAt style depth v = text)
    (hstarts : StartsNumber text)
    (hread : ∀ rest, EndsNumber rest → readNumber (text ++ rest) = .ok (v, rest))
    (hplain : '\r' ∉ text) :
    ReadsBack v := by
  constructor <;> intro style depth <;> rw [hprint]
  · exact hstarts.startsValue
  · intro fuel rest _ hrest
    have hstarts' : StartsNumber (text ++ rest) := by
      obtain ⟨c, more, hc, rfl | rfl⟩ := hstarts
      · exact ⟨c, more ++ rest, hc, .inl rfl⟩
      · exact ⟨c, more ++ rest, hc, .inr rfl⟩
    rw [readValue_of_startsNumber hstarts', hread rest hrest]
  · exact hplain

theorem return_notMem_digits {digits : List Char} (h : IsDigits digits) : '\r' ∉ digits :=
  fun hmem => by
  cases h '\r' hmem

theorem return_notMem_signed {negative : Bool} (h : '\r' ∉ text) : '\r' ∉ signed negative text := by
  cases negative <;> simpa [signed] using h

theorem printAt_int (style : Style) (depth : Nat) (i : Int) :
    printAt style depth (.int i) = (toString i).toList := rfl

theorem printAt_float (style : Style) (depth : Nat) (x : Binary64) :
    printAt style depth (.float x) = x.dataText.toList := rfl

/-- An integer that has few enough digits reads back. -/
theorem readsBack_int {i : Int} (h : i.natAbs < 10 ^ digitLimit) : ReadsBack (.int i) := by
  have hstarts : StartsNumber (toString i).toList := by
    rw [toList_toString]
    simpa using startsNumber_signed (Binary64.isWhole_toDigits i.natAbs) (decide (i < 0)) []
  refine readsBack_of_number (fun style depth => printAt_int style depth i) hstarts
    (fun rest => readNumber_toString h) ?_
  rw [toList_toString]
  exact return_notMem_signed (return_notMem_digits (isDigits_toDigits _))

open Binary64 in
theorem return_notMem_setOut {whole fraction : List Char} {exponent : Option Int} {value : ℚ}
    (h : SetsOut whole fraction exponent value) : '\r' ∉ setOut whole fraction exponent := by
  have hwhole : '\r' ∉ whole := return_notMem_digits h.isWhole.2.1
  have hfraction : '\r' ∉ (if fraction = [] then [] else '.' :: fraction) := by
    split
    · simp
    · simpa using return_notMem_digits h.isFraction
  have hexponent : '\r' ∉ (exponent.map exponentText).getD [] := by
    cases exponent with
    | none => simp
    | some e =>
      obtain ⟨digits, htext, -, hdigits, -⟩ := exponentText_eq e
      rw [Option.map_some, Option.getD_some, htext]
      have := return_notMem_digits hdigits
      split <;> simpa using this
  simp [setOut, hwhole, hfraction, hexponent]

/-- A number reads back, if no other NaN than the one that is read is printed. -/
theorem readsBack_float {x : Binary64} (h : x.view = .nan → x = Binary64.nan) :
    ReadsBack (.float x) := by
  cases hx : x.view with
  | nan =>
    obtain rfl := h hx
    have hword : ("NaN".toList, Value.float Binary64.nan) ∈ words := by simp [words]
    exact readsBack_of_word hword fun style depth => by rw [printAt_float]; decide
  | infinite negative =>
    obtain rfl := Binary64.infinity_of_view hx
    have hword : ((if negative then "-Infinity" else "Infinity").toList,
        Value.float (.infinity negative)) ∈ words := by
      cases negative <;> simp [words]
    exact readsBack_of_word hword fun style depth => by
      rw [printAt_float]; cases negative <;> decide
  | finite negative m e =>
    obtain ⟨whole, fraction, exponent, htext, hsets⟩ := exists_setsOut_dataText hx
    have hstarts : StartsNumber x.dataText.toList := by
      rw [htext, signed_setOut]
      exact startsNumber_signed hsets.isWhole negative _
    refine readsBack_of_number (fun style depth => printAt_float style depth x) hstarts
      (fun rest => readNumber_dataText hx) ?_
    rw [htext]
    exact return_notMem_signed (return_notMem_setOut hsets)

/-- A text is read behind a quotation mark. -/
theorem readValue_quote (text : List Char) :
    readValue (fuel + 1) ('"' :: text) = (readChars (text.length + 1) text).map
      fun (cs, r) => (.ofCodes cs, r) :=
  rfl

/-- Every text reads back. -/
theorem readsBack_str (s : String) : ReadsBack (.str s) := by
  have hprint (style : Style) (depth : Nat) : printAt style depth (.str s) = quoted s := rfl
  constructor <;> intro style depth <;> rw [hprint]
  · exact ⟨'"', _, rfl, rfl, by decide⟩
  · intro fuel rest _ _
    have hread (start : Nat) :
        readChars start (s.toList.flatMap escaped ++ '"' :: rest) = .ok (codesOf s.toList, rest) :=
      readChars_flatMap start s.toList rest
    rw [quoted_append, readValue_quote, hread]
    simp [Except.map, Value.ofCodes_codesOf]
  · exact return_notMem_quoted s

/-! ### Lists and mappings -/

theorem printAt_list_cons (style : Style) (depth : Nat) (v : Value) (more : List Value) :
    printAt style depth (.list (v :: more)) =
      '[' :: (style.lineStart (depth + 1) ++ printItems style (depth + 1) (v :: more) ++
        style.lineStart depth ++ [']']) := rfl

theorem printAt_map_cons (style : Style) (depth : Nat) (f : String × Value)
    (more : List (String × Value)) :
    printAt style depth (.map (entriesWith (f :: more))) =
      '\x7b' :: (style.lineStart (depth + 1) ++ printEntries style (depth + 1)
        (entriesWith (f :: more)) ++ style.lineStart depth ++ ['\x7d']) := rfl

theorem printItems_cons_cons (style : Style) (depth : Nat) (v w : Value) (more : List Value) :
    printItems style depth (v :: w :: more) =
      printAt style depth v ++ style.between depth ++ printItems style depth (w :: more) := rfl

/-- Items start as the first one of them does. -/
theorem startsValue_printItems (hv : ReadsBack v) (style : Style) (depth : Nat)
    (more : List Value) :
    StartsValue (printItems style depth (v :: more)) := by
  cases more with
  | nil => exact hv.starts style depth
  | cons w more =>
    rw [printItems_cons_cons, List.append_assoc]
    exact (hv.starts style depth).append _

/-- **An item that is printed is read as it is**, if it is the last one. -/
theorem readItems_last {tail : List Char} (hv : ReadsBack v)
    (hfuel : 2 * (printAt style depth v).length ≤ fuel) (htail : EndsNumber tail)
    (hend : skipSpace tail = ']' :: rest) :
    readItems (fuel + 1) (printAt style depth v ++ tail) = .ok ([v], rest) := by
  rw [readItems]
  simp only [hv.readValue_eq style depth hfuel htail, hend, bind, Except.bind]

/-- **An item that is printed is read as it is**, if there are more. -/
theorem readItems_more {tail next : List Char} (hv : ReadsBack v)
    (hfuel : 2 * (printAt style depth v).length ≤ fuel) (htail : EndsNumber tail)
    (hcomma : skipSpace tail = ',' :: next)
    (hmore : readItems fuel (skipSpace next) = .ok (items, rest)) :
    readItems (fuel + 1) (printAt style depth v ++ tail) = .ok (v :: items, rest) := by
  rw [readItems]
  simp only [hv.readValue_eq style depth hfuel htail, hcomma, hmore, bind, Except.bind]

/-- **Items that are printed are read as they are**, up to the end of their list. -/
theorem readItems_printItems (hitems : ∀ v ∈ items, ReadsBack v) (hne : items ≠ [])
    (hclosing : IsBlank closing) (hfuel : 2 * (printItems style depth items).length + 1 ≤ fuel) :
    readItems fuel (printItems style depth items ++ (closing ++ ']' :: rest)) =
      .ok (items, rest) := by
  induction items generalizing fuel with
  | nil => exact absurd rfl hne
  | cons v more ih =>
    obtain ⟨hv, hmore⟩ := List.forall_mem_cons.1 hitems
    obtain ⟨fuel, rfl⟩ : ∃ k, fuel = k + 1 := ⟨fuel - 1, by omega⟩
    cases more with
    | nil =>
      have hprint : printItems style depth [v] = printAt style depth v := rfl
      rw [hprint] at hfuel ⊢
      have hend : skipSpace (closing ++ ']' :: rest) = ']' :: rest := skipSpace_append hclosing rfl
      exact readItems_last hv (by omega) (endsNumber_append hclosing (.inr (.inl rfl))) hend
    | cons w more =>
      obtain ⟨blank, hbetween, hblank⟩ := between_eq style depth
      rw [printItems_cons_cons, hbetween] at hfuel ⊢
      simp only [List.length_append, List.length_cons] at hfuel
      have hsplit (next : List Char) :
          printAt style depth v ++ ',' :: blank ++ printItems style depth (w :: more) ++ next =
          printAt style depth v ++
            ',' :: (blank ++ (printItems style depth (w :: more) ++ next)) := by simp
      have hstarts := startsValue_printItems (hmore w List.mem_cons_self) style depth more
      have hrest : readItems fuel (printItems style depth (w :: more) ++ (closing ++ ']' :: rest)) =
          .ok (w :: more, rest) := ih hmore (List.cons_ne_nil w more) (by omega)
      rw [hsplit]
      refine readItems_more hv (by omega) (endsNumber_comma _) (skipSpace_cons rfl) ?_
      rw [(hstarts.append _).skipSpace hblank]
      exact hrest

theorem printEntries_cons_cons (style : Style) (depth : Nat) (f g : String × Value)
    (more : List (String × Value)) :
    printEntries style depth (entriesWith (f :: g :: more)) =
      quoted f.1 ++ ':' :: ' ' :: (printAt style depth f.2 ++ style.between depth ++
        printEntries style depth (entriesWith (g :: more))) := by
  have hprint : printEntries style depth (entriesWith (f :: g :: more)) =
      quoted f.1 ++ ':' :: ' ' :: printAt style depth f.2 ++ style.between depth ++
        printEntries style depth (entriesWith (g :: more)) := rfl
  rw [hprint]
  simp

theorem printEntries_singleton (style : Style) (depth : Nat) (f : String × Value) :
    printEntries style depth (entriesWith [f]) =
      quoted f.1 ++ ':' :: ' ' :: printAt style depth f.2 := rfl

theorem startsValue_printEntries (style : Style) (depth : Nat) (f : String × Value)
    (more : List (String × Value)) :
    StartsValue (printEntries style depth (entriesWith (f :: more))) := by
  cases more with
  | nil =>
    rw [printEntries_singleton]
    exact ⟨'"', _, rfl, rfl, by decide⟩
  | cons g more =>
    rw [printEntries_cons_cons]
    exact ⟨'"', _, rfl, rfl, by decide⟩

/-- The value of a member, behind the space that is printed in front of it. -/
theorem ReadsBack.skipSpace_printAt (hv : ReadsBack v) (style : Style) (depth : Nat)
    (tail : List Char) :
    skipSpace (' ' :: (printAt style depth v ++ tail)) = printAt style depth v ++ tail :=
  ((hv.starts style depth).append tail).skipSpace (show IsBlank [' '] by simp [IsBlank, isSpace])

/-- **A member that is printed is read as it is**, if it is the last one. -/
theorem readMembers_last {tail : List Char} (hv : ReadsBack v) (key : String)
    (hfuel : 2 * (printAt style depth v).length ≤ fuel) (htail : EndsNumber tail)
    (hend : skipSpace tail = '\x7d' :: rest) :
    readMembers (fuel + 1) (quoted key ++ ':' :: ' ' :: (printAt style depth v ++ tail)) =
      .ok ([(.str key, v)], rest) := by
  rw [quoted_append, readMembers]
  simp only [readChars_flatMap, Value.ofCodes_codesOf,
    skipSpace_cons (show isSpace ':' = false from rfl), hv.skipSpace_printAt,
    hv.readValue_eq style depth hfuel htail, hend, bind, Except.bind]

/-- **A member that is printed is read as it is**, if there are more. -/
theorem readMembers_more {tail next : List Char} {members : List (Value × Value)} (hv : ReadsBack v)
    (key : String) (hfuel : 2 * (printAt style depth v).length ≤ fuel) (htail : EndsNumber tail)
    (hcomma : skipSpace tail = ',' :: next)
    (hmore : readMembers fuel (skipSpace next) = .ok (members, rest)) :
    readMembers (fuel + 1) (quoted key ++ ':' :: ' ' :: (printAt style depth v ++ tail)) =
      .ok ((.str key, v) :: members, rest) := by
  rw [quoted_append, readMembers]
  simp only [readChars_flatMap, Value.ofCodes_codesOf,
    skipSpace_cons (show isSpace ':' = false from rfl), hv.skipSpace_printAt,
    hv.readValue_eq style depth hfuel htail, hcomma, hmore, bind, Except.bind]

/-- **Members that are printed are read as they are**, up to the end of their mapping. -/
theorem readMembers_printEntries (hfields : ∀ f ∈ fields, ReadsBack f.2) (hne : fields ≠ [])
    (hclosing : IsBlank closing)
    (hfuel : 2 * (printEntries style depth (entriesWith fields)).length + 1 ≤ fuel) :
    readMembers fuel (printEntries style depth (entriesWith fields) ++
      (closing ++ '\x7d' :: rest)) =
      .ok (entriesWith fields, rest) := by
  induction fields generalizing fuel with
  | nil => exact absurd rfl hne
  | cons f more ih =>
    obtain ⟨hf, hmore⟩ := List.forall_mem_cons.1 hfields
    obtain ⟨fuel, rfl⟩ : ∃ k, fuel = k + 1 := ⟨fuel - 1, by omega⟩
    cases more with
    | nil =>
      rw [printEntries_singleton] at hfuel ⊢
      simp only [List.length_append, List.length_cons] at hfuel
      have hend : skipSpace (closing ++ '\x7d' :: rest) = '\x7d' :: rest :=
        skipSpace_append hclosing rfl
      have htail : EndsNumber (closing ++ '\x7d' :: rest) :=
        endsNumber_append hclosing (.inr (.inr rfl))
      have hsplit : quoted f.1 ++ ':' :: ' ' :: printAt style depth f.2 ++
        (closing ++ '\x7d' :: rest) =
          quoted f.1 ++ ':' :: ' ' :: (printAt style depth f.2 ++ (closing ++ '\x7d' :: rest)) := by
        simp
      rw [hsplit]
      exact readMembers_last hf f.1 (by omega) htail hend
    | cons g more =>
      obtain ⟨blank, hbetween, hblank⟩ := between_eq style depth
      rw [printEntries_cons_cons, hbetween] at hfuel ⊢
      simp only [List.length_append, List.length_cons] at hfuel
      have hsplit (next : List Char) :
        quoted f.1 ++ ':' :: ' ' :: (printAt style depth f.2 ++ ',' :: blank ++
            printEntries style depth (entriesWith (g :: more))) ++ next =
          quoted f.1 ++ ':' :: ' ' :: (printAt style depth f.2 ++
            ',' :: (blank ++ (printEntries style depth (entriesWith (g :: more)) ++ next))) := by
        simp
      have hstarts := startsValue_printEntries style depth g more
      have hrest :
          readMembers fuel (printEntries style depth (entriesWith (g :: more)) ++
            (closing ++ '\x7d' :: rest)) =
          .ok (entriesWith (g :: more), rest) := ih hmore (List.cons_ne_nil g more) (by omega)
      rw [hsplit]
      refine readMembers_more hf f.1 (by omega) (endsNumber_comma _) (skipSpace_cons rfl) ?_
      rw [(hstarts.append _).skipSpace hblank]
      exact hrest

/-- No carriage return is printed between items. -/
theorem return_notMem_lineStart (style : Style) (depth : Nat) : '\r' ∉ style.lineStart depth := by
  cases style <;> simp [Style.lineStart]

theorem return_notMem_between (style : Style) (depth : Nat) : '\r' ∉ style.between depth := by
  cases style <;> simp [Style.between, Style.lineStart]

/-- No item that reads back is printed with a return. -/
theorem return_notMem_printItems (h : ∀ v ∈ items, ReadsBack v) (style : Style) (depth : Nat) :
    '\r' ∉ printItems style depth items := by
  induction items with
  | nil => exact List.not_mem_nil
  | cons v more ih =>
    obtain ⟨hv, hmore⟩ := List.forall_mem_cons.1 h
    cases more with
    | nil => exact hv.plain style depth
    | cons w more =>
      rw [printItems_cons_cons]
      simp [hv.plain style depth, return_notMem_between style depth, ih hmore]

/-- No entry that reads back is printed with a return. -/
theorem return_notMem_printEntries (h : ∀ f ∈ fields, ReadsBack f.2) (style : Style) (depth : Nat) :
    '\r' ∉ printEntries style depth (entriesWith fields) := by
  induction fields with
  | nil => exact List.not_mem_nil
  | cons f more ih =>
    obtain ⟨hf, hmore⟩ := List.forall_mem_cons.1 h
    cases more with
    | nil =>
      rw [printEntries_singleton]
      simp [hf.plain style depth, return_notMem_quoted]
    | cons g more =>
      rw [printEntries_cons_cons]
      simp [hf.plain style depth, return_notMem_quoted, return_notMem_between style depth, ih hmore]

/-- Behind a bracket stand items, or the bracket that closes the list. -/
theorem readValue_bracket (text : List Char) :
    readValue (fuel + 1) ('[' :: text) =
      match skipSpace text with
      | ']' :: rest => .ok (.list [], rest)
      | rest => (readItems fuel rest).map fun (items, r) => (.list items, r) := rfl

/-- Behind a brace stand entries, or the brace that closes the mapping. -/
theorem readValue_brace (text : List Char) :
    readValue (fuel + 1) ('\x7b' :: text) =
      match skipSpace text with
      | '\x7d' :: rest => .ok (.map [], rest)
      | rest => (readMembers fuel rest).map fun (members, r) => (.map (entriesOf members), r) := rfl

/-- A list with an item in it. -/
theorem readValue_list (hstarts : StartsValue text) (hblank : IsBlank blank)
    (hitems : readItems fuel text = .ok (items, rest)) :
    readValue (fuel + 1) ('[' :: (blank ++ text)) = .ok (.list items, rest) := by
  rw [readValue_bracket, hstarts.skipSpace hblank]
  obtain ⟨c, more, rfl, -, hc⟩ := hstarts
  split
  · next hend => simp [(List.cons.inj hend).1] at hc
  · rw [hitems]
    rfl

/-- A mapping with a member in it. -/
theorem readValue_map {members : List (Value × Value)} (hstarts : StartsValue text)
    (hblank : IsBlank blank) (hmembers : readMembers fuel text = .ok (members, rest)) :
    readValue (fuel + 1) ('\x7b' :: (blank ++ text)) = .ok (.map (entriesOf members), rest) := by
  rw [readValue_brace, hstarts.skipSpace hblank]
  obtain ⟨c, more, rfl, -, hc⟩ := hstarts
  split
  · next hend => simp [(List.cons.inj hend).1] at hc
  · rw [hmembers]
    rfl

/-- A list reads back when its items do. -/
theorem readsBack_list (h : ∀ v ∈ items, ReadsBack v) : ReadsBack (.list items) := by
  cases items with
  | nil =>
    have hprint (style : Style) (depth : Nat) : printAt style depth (.list []) = ['[', ']'] := rfl
    constructor <;> intro style depth <;> rw [hprint]
    · exact ⟨'[', _, rfl, rfl, by decide⟩
    · intro fuel rest _ _
      rfl
    · decide
  | cons v more =>
    have hne := List.cons_ne_nil v more
    constructor <;> intro style depth <;> rw [printAt_list_cons]
    · exact ⟨'[', _, rfl, rfl, by decide⟩
    · intro fuel rest hfuel _
      simp only [List.length_append, List.length_cons] at hfuel
      have hitems :
          readItems fuel (printItems style (depth + 1) (v :: more) ++
            (style.lineStart depth ++ ']' :: rest)) =
          .ok (v :: more, rest) :=
        readItems_printItems h hne (isBlank_lineStart style depth) (by omega)
      have hstarts := (startsValue_printItems (h v List.mem_cons_self)
        style (depth + 1) more).append
        (style.lineStart depth ++ ']' :: rest)
      have hsplit : '[' ::
        (style.lineStart (depth + 1) ++ printItems style (depth + 1) (v :: more) ++
            style.lineStart depth ++ [']']) ++ rest =
          '[' :: (style.lineStart (depth + 1) ++
            (printItems style (depth + 1) (v :: more) ++
              (style.lineStart depth ++ ']' :: rest))) := by simp
      rw [hsplit]
      exact readValue_list hstarts (isBlank_lineStart style (depth + 1)) hitems
    · simp [return_notMem_lineStart, return_notMem_printItems h]

/-- A mapping reads back when its keys are distinct texts and its values do. -/
theorem readsBack_map (hkeys : (fields.map Prod.fst).Nodup) (h : ∀ f ∈ fields, ReadsBack f.2) :
    ReadsBack (.map (entriesWith fields)) := by
  cases fields with
  | nil =>
    have hprint (style : Style) (depth : Nat) : printAt style depth (.map (entriesWith [])) =
        ['\x7b', '\x7d'] := rfl
    constructor <;> intro style depth <;> rw [hprint]
    · exact ⟨'\x7b', _, rfl, rfl, by decide⟩
    · intro fuel rest _ _
      rfl
    · decide
  | cons f more =>
    constructor <;> intro style depth <;> rw [printAt_map_cons]
    · exact ⟨'\x7b', _, rfl, rfl, by decide⟩
    · intro fuel rest hfuel _
      simp only [List.length_append, List.length_cons] at hfuel
      have hmembers : readMembers fuel (printEntries style (depth + 1) (entriesWith (f :: more)) ++
          (style.lineStart depth ++ '\x7d' :: rest)) = .ok (entriesWith (f :: more), rest) :=
        readMembers_printEntries h (List.cons_ne_nil f more)
          (isBlank_lineStart style depth) (by omega)
      have hstarts :=
        (startsValue_printEntries style (depth + 1) f more).append
          (style.lineStart depth ++ '\x7d' :: rest)
      have hsplit :
          '\x7b' :: (style.lineStart (depth + 1) ++ printEntries style (depth + 1)
            (entriesWith (f :: more)) ++ style.lineStart depth ++ ['\x7d']) ++ rest =
          '\x7b' :: (style.lineStart (depth + 1) ++
            (printEntries style (depth + 1) (entriesWith (f :: more)) ++
              (style.lineStart depth ++ '\x7d' :: rest))) := by
        simp
      rw [hsplit, readValue_map hstarts (isBlank_lineStart style (depth + 1)) hmembers,
        entriesOf_of_nodup hkeys]
    · simp [return_notMem_lineStart, return_notMem_printEntries h]

/-! ### Whole texts -/

/-- **A value that JSON has a form for is read as it is printed.** -/
theorem IsData.readsBack (h : IsData v) : ReadsBack v := by
  induction h with
  | null =>
    exact readsBack_of_word (show ("null".toList, Value.null) ∈ words by simp [words])
      fun _ _ => rfl
  | bool b =>
    have hword : ((if b then "true" else "false").toList, Value.bool b) ∈ words := by
      cases b <;> simp [words]
    exact readsBack_of_word hword fun _ _ => by cases b <;> rfl
  | int h => exact readsBack_int h
  | float h => exact readsBack_float h
  | str s => exact readsBack_str s
  | list _ ih => exact readsBack_list ih
  | map hkeys _ ih => exact readsBack_map hkeys ih

/-- **A text that is printed reads back.** -/
theorem read_print (h : IsData v) (style : Style) : read (print style v).toList = .ok v := by
  have hback := h.readsBack
  have hread : readValue (2 * (printAt style 0 v).length + 2) (printAt style 0 v ++ []) =
      .ok (v, []) :=
    hback.readValue_eq style 0 (by omega) (by simp [EndsNumber])
  obtain ⟨c, more, htext, hspace, hc⟩ := hback.starts style 0
  have hmark : (printAt style 0 v).head? ≠ some '\uFEFF' := by
    rw [htext]
    rintro ⟨⟩
    simp at hc
  have hskip : skipSpace (printAt style 0 v) = printAt style 0 v := by
    rw [htext, skipSpace_cons hspace]
  have hall : readAll (printAt style 0 v) = .ok v := by
    rw [List.append_nil] at hread
    rw [readAll, if_neg hmark, hskip]
    exact Outcome.bind_eq_ok_iff.2 ⟨_, hread, rfl⟩
  rw [read, print, String.toList_ofList, hall]

/-- A text without returns has its line ends as they are. -/
theorem normalizeNewlines_of_notMem (h : '\r' ∉ text) : normalizeNewlines text = text := by
  induction text with
  | nil => rfl
  | cons c rest ih =>
    rw [List.mem_cons, not_or] at h
    have hc : c ≠ '\r' := Ne.symm h.1
    rw [normalizeNewlines.eq_3, if_neg hc, ih h.2]
    intro more
    exact fun heq _ => hc heq

/-- A printed text stands as it is once its line ends have been made alike. -/
theorem normalizeNewlines_print (h : IsData v) (style : Style) :
    normalizeNewlines (print style v).toList = (print style v).toList := by
  rw [print, String.toList_ofList]
  exact normalizeNewlines_of_notMem (h.readsBack.plain style 0)

end Json
end LintRun
