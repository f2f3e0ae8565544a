import Mathlib
import LintRun.Proofs.Failure.Outcome
import LintRun.Proofs.Files.Path
import LintRun.Proofs.Shell.Word
import LintRun.Proofs.Text.Line
import LintRun.Shell.Expansion

/-!
# Proofs — Shell — Fields of quoted words

The word that a text is written as stands for that text and for nothing else: it is neither cut nor
a pattern, and nothing in it is expanded.

* `Word.StandsFor`: a word is one field with a certain text, whatever the shell knows.
* `expandTildes_quoting`, `Brace.expand_quoting`, `fieldsOf_literalBits`, `fileNames_glyphsFor`: no
  step of the expansion changes it.
* `Word.quoting_standsFor`: so every shell takes it for the text that is quoted.
-/

namespace LintRun

namespace Shell

variable {text : List Char}

/-- A word is one field with a certain text, whatever the shell knows; and the shell is left as it
was. -/
def Word.StandsFor (w : Word) (text : String) : Prop :=
  ∀ (e : Engine) (s : State), (wordFields e w).run s = (.ok [text], s)

/-! ### Tildes -/

/-- Unquoted texts side by side are one text. -/
theorem joinTexts_texts {texts : List (List Char)} (h : texts ≠ []) :
    joinTexts (texts.map (Piece.text · false)) = [.text texts.flatten false] := by
  induction texts with
  | nil => exact absurd rfl h
  | cons text texts ih =>
    cases texts with
    | nil => simp [joinTexts]
    | cons next texts =>
      rw [List.map_cons, joinTexts, ih (List.cons_ne_nil _ _)]
      simp

/-- Texts side by side with one between each two are one text. -/
theorem joinTexts_intersperse (between : List Char) {texts : List (List Char)} (h : texts ≠ []) :
    joinTexts
        ((texts.map fun t => [Piece.text t false]).intersperse [.text between false]).flatten =
      [.text (between.intercalate texts) false] := by
  have hflat :
      ((texts.map fun t => [Piece.text t false]).intersperse [.text between false]).flatten =
        (texts.intersperse between).map (Piece.text · false) := by
    induction texts with
    | nil => rfl
    | cons text texts ih =>
      cases texts with
      | nil => rfl
      | cons next texts => simpa using ih (List.cons_ne_nil _ _)
  have hne : texts.intersperse between ≠ [] := by
    obtain ⟨text, texts, rfl⟩ := List.exists_cons_of_ne_nil h
    cases texts <;> simp
  rw [hflat, joinTexts_texts hne]
  rfl

/-- A text without tildes stays as it is, be it assigned or not. -/
theorem expandTilde_text (s : State) (assigned : Bool) (h : '~' ∉ text) :
    expandTilde s assigned [.text text false] = [.text text false] := by
  set parts := if assigned then Text.splitAt ':' text else [text] with hparts
  have hpart : ∀ part ∈ parts, '~' ∉ part := by
    intro part hmem
    cases assigned with
    | false => exact List.mem_singleton.1 hmem ▸ h
    | true => exact fun hc => h (Text.mem_of_mem_splitAt hmem hc)
  have hne : parts ≠ [] := by
    cases assigned with
    | false => exact List.cons_ne_nil _ _
    | true => exact Text.splitAt_ne_nil _ _
  have hjoined : List.intercalate [':'] parts = text := by
    cases assigned with
    | false => simp [hparts, List.intercalate]
    | true => simp [hparts, Text.splitAt_eq_splitOn]
  rw [expandTilde]
  simp only [← hparts, List.append_nil]
  rw [List.map_congr_left (g := fun x => [Piece.text x.1 false])]
  · have hfst : (fun x : List Char × Nat => [Piece.text x.1 false]) =
        (fun t => [.text t false]) ∘ Prod.fst := rfl
    rw [hfst, ← List.map_map, List.zipIdx_map_fst, joinTexts_intersperse [':'] hne, hjoined]
  · rintro ⟨part, i⟩ hx
    have hmem : part ∈ parts := List.fst_mem_of_mem_zipIdx hx
    split
    case h_1 more e =>
      obtain rfl : part = '~' :: more := e
      exact absurd List.mem_cons_self (hpart _ hmem)
    · rfl

/-- Nor does it if it has the form of an assignment. -/
theorem expandTildes_text (s : State) (h : '~' ∉ text) :
    expandTildes s [.text text false] = [.text text false] := by
  rw [expandTildes]
  split
  case h_1 name value _ hcut =>
    obtain ⟨rfl, -⟩ := Text.cutAt?_eq_some_iff.1 hcut
    have hvalue : '~' ∉ value :=
      fun hc => h (List.mem_append_right name (List.mem_cons_of_mem '=' hc))
    split_ifs with _ hempty
    · obtain rfl := List.isEmpty_iff.1 hempty
      rfl
    · show joinTexts (.text (name ++ ['=']) false :: expandTilde s true [.text value false]) = _
      rw [expandTilde_text s true hvalue]
      simp [joinTexts]
    · exact expandTilde_text s false h
  case h_2 => exact expandTilde_text s false h

/-- A quoted word holds no tilde that stands for a directory. -/
theorem expandTildes_quoting (s : State) (text : List Char) :
    expandTildes s (Word.quoting text).pieces = (Word.quoting text).pieces := by
  by_cases hplain : isPlain text
  · have htilde : '~' ∉ text := fun h => absurd ((isPlain_iff.1 hplain).2 _ h) (by decide)
    simpa [Word.quoting, Word.pieces, hplain] using expandTildes_text s htilde
  · simp [Word.quoting, Word.pieces, hplain, expandTildes]

/-! ### Braces -/

/-- A quoted word holds no brace that opens alternatives. -/
theorem Brace.expand_quoting (text : List Char) :
    Brace.expand (Word.quoting text).pieces = [(Word.quoting text).pieces] := by
  by_cases hplain : isPlain text
  · have hbrace : '\x7b' ∉ text := fun h => absurd ((isPlain_iff.1 hplain).2 _ h) (by decide)
    have hpieces : (Word.quoting text).pieces = [.text text false] := by
      simp [Word.quoting, Word.pieces, hplain]
    rw [hpieces, Brace.expand, if_neg]
    simp only [Brace.unitsOf, List.flatMap_cons, List.flatMap_nil, List.append_nil, List.any_map,
      Bool.not_eq_true, List.any_eq_false, Function.comp_apply]
    intro c hc
    split
    case h_1 e =>
      obtain rfl := BraceUnit.char.inj e
      exact absurd hc hbrace
    · rfl
  · simp [Word.quoting, Word.pieces, hplain, Brace.expand, Brace.unitsOf]

/-! ### Fields -/

/-- Characters that separate no fields fill one. -/
theorem fieldsFrom_glyphs (separators : List Char) (field : Option (List Glyph)) (closed : Bool)
    {glyphs : List Glyph} (h : glyphs ≠ []) :
    fieldsFrom separators field closed (glyphs.map (Bit.glyph · false)) =
      [(field.getD []).reverse ++ glyphs] := by
  induction glyphs generalizing field closed with
  | nil => exact absurd rfl h
  | cons g glyphs ih =>
    simp only [List.map_cons, fieldsFrom, Bool.false_and, Bool.false_eq_true, if_false]
    cases glyphs with
    | nil => simp [fieldsFrom]
    | cons next glyphs =>
      rw [ih _ _ (List.cons_ne_nil _ _)]
      simp

/-- The characters of a text, each of them quoted or none. -/
def glyphsFor (quoted : Bool) (text : List Char) : List Glyph := text.map (⟨·, quoted⟩)

/-- A text of a word is a single field. -/
theorem fieldsOf_literalBits (separators : List Char) {quoted : Bool} (h : text ≠ [] ∨ quoted) :
    fieldsOf separators (literalBits quoted text) = [glyphsFor quoted text] := by
  rw [fieldsOf, literalBits]
  by_cases htext : text = []
  · simp [htext, h.resolve_left (not_not.2 htext), fieldsFrom, glyphsFor]
  · have hglyphs : glyphsFor quoted text ≠ [] := by simpa [glyphsFor] using htext
    have := fieldsFrom_glyphs separators none false hglyphs
    simpa [htext, glyphsFor, Function.comp_def] using this

/-! ### Patterns -/

/-- Safe characters open no alternatives. -/
theorem group?_glyphsFor (h : ∀ c ∈ text, isSafe c) (g : Glyph) :
    Pattern.group? (g :: glyphsFor false text) = none := by
  unfold Pattern.group?
  split
  case h_1 rest e =>
    -- no safe character opens alternatives
    cases text with
    | nil => cases e
    | cons c text =>
      obtain ⟨-, hopen, -⟩ : g = _ ∧ ⟨c, false⟩ = (⟨'(', false⟩ : Glyph) ∧ _ := by
        simpa only [glyphsFor, List.map_cons, List.cons.injEq] using e
      obtain rfl : c = '(' := congrArg Glyph.char hopen
      exact absurd (h '(' List.mem_cons_self) (by decide)
  · rfl

/-- What is quoted stands for itself, and so do safe characters. -/
theorem ofGlyphsWithin_glyphsFor (extended : Bool) {quoted : Bool}
    (h : quoted ∨ ∀ c ∈ text, isSafe c) (fuel : Nat) :
    ∀ part ∈ Pattern.ofGlyphsWithin extended fuel (glyphsFor quoted text), ∃ c, part = .char c := by
  induction fuel generalizing text with
  | zero => simp [Pattern.ofGlyphsWithin]
  | succ fuel ih =>
    cases text with
    | nil => simp [glyphsFor, Pattern.ofGlyphsWithin]
    | cons c text =>
      have hmore := ih (h.imp_right fun hs d hd => hs d (List.mem_cons_of_mem c hd))
      suffices heq : Pattern.ofGlyphsWithin extended (fuel + 1) (glyphsFor quoted (c :: text)) =
          .char c :: Pattern.ofGlyphsWithin extended fuel (glyphsFor quoted text) by
        rw [heq]
        rintro part (_ | ⟨_, hpart⟩)
        · exact ⟨c, rfl⟩
        · exact hmore part hpart
      cases quoted with
      | true => simp [glyphsFor, Pattern.ofGlyphsWithin]
      | false =>
        have hs := h.resolve_left (by decide)
        have hgroup := group?_glyphsFor (fun d hd => hs d (List.mem_cons_of_mem c hd)) ⟨c, false⟩
        have hc := hs c List.mem_cons_self
        show Pattern.ofGlyphsWithin extended (fuel + 1) (⟨c, false⟩ :: glyphsFor false text) = _
        simp only [Pattern.ofGlyphsWithin, hgroup, ite_self, Bool.false_eq_true, if_false]
        split
        case h_5 => rfl
        all_goals exact absurd hc (by decide)

/-- They are no pattern, so no file is looked up for them. -/
theorem fileNames_glyphsFor {quoted : Bool} (h : quoted ∨ ∀ c ∈ text, isSafe c) (s : State) :
    (fileNames (glyphsFor quoted text)).run s = (.ok [String.ofList text], s) := by
  have hclosed : (Pattern.ofGlyphs (s.has "extglob") (glyphsFor quoted text)).isOpen = false := by
    rw [Pattern.isOpen, List.any_eq_false]
    intro part hpart
    obtain ⟨c, rfl⟩ := ofGlyphsWithin_glyphsFor _ h _ part hpart
    simp
  have htext : textOf (glyphsFor quoted text) = String.ofList text := by
    simp [textOf, glyphsFor, Function.comp_def]
  have hnames : fileNames? s (glyphsFor quoted text) = some [String.ofList text] := by
    rw [fileNames?, hclosed, htext]
    simp
  simp [fileNames, hnames]

/-! ### Words -/

/-- A quoted word is a single field, with the characters of its text. -/
theorem pieceFields_quoting (e : Engine) (text : List Char) (s : State) :
    (pieceFields e (Word.quoting text).pieces).run s =
      (.ok [glyphsFor (!isPlain text) text], s) := by
  have harguments : holdsArguments (Word.quoting text).pieces = false := rfl
  have hbits : (expandPieces e (Word.quoting text).pieces).run s =
      (.ok (literalBits (!isPlain text) text), s) := by
    simp [Word.quoting, Word.pieces, expandPieces, expandPiece]
  have hfield : text ≠ [] ∨ (!isPlain text) = true := by
    by_cases h : isPlain text
    · exact .inl (isPlain_iff.1 h).1
    · exact .inr (by simpa using h)
  simp only [pieceFields, Stateful.run_bind, Stateful.run_get, harguments, expandTildes_quoting,
    Bool.false_eq_true, if_false, hbits, fieldsOf_literalBits _ hfield, Stateful.run_pure]

/-- **The word that a text is written as stands for that text**, whatever characters the text
holds. -/
theorem Word.quoting_standsFor (text : List Char) :
    (Word.quoting text).StandsFor (String.ofList text) := by
  intro e s
  have hwords : (if s.isBash && s.has "braceexpand" then Brace.expand (quoting text).pieces
      else [(quoting text).pieces]) = [(quoting text).pieces] := by
    rw [Brace.expand_quoting, ite_self]
  have hinert : (!isPlain text) = true ∨ ∀ c ∈ text, isSafe c := by
    by_cases h : isPlain text
    · exact .inr (isPlain_iff.1 h).2
    · exact .inl (by simpa using h)
  simp only [wordFields, Stateful.run_bind, Stateful.run_get, hwords, concat, pieceFields_quoting,
    fileNames_glyphsFor hinert, Stateful.run_pure]
  rfl

theorem Word.quoting_toList_standsFor (text : String) :
    (Word.quoting text.toList).StandsFor text := by
  simpa using Word.quoting_standsFor text.toList

end Shell
end LintRun
