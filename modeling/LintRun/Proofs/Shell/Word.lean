import Mathlib
import LintRun.Proofs.Shell.Place
import LintRun.Shell.Quoting
import LintRun.Shell.Reader.Word

/-!
# Proofs — Shell — Quoted words

A text that is written as a word is read as that text, whatever characters it holds.

* `Word.quoting`: the word that a text is written as.
* `quoteInduction`: a text goes on from one single quote to the next, as it is written and read.
* `readPieces_quoted`, `readPieces_safe`: the two ways in which a text is written are read back.
* `readWord_quoteChars`: from what a text is written as, the word that stands for it is read, and
  nothing behind it.

A text with other than safe characters is written between single quotes, and each single quote in it
between double quotes outside of them. The reader comes back to where it began behind each of these,
so both are followed from one single quote of the text to the next. The marks that end a word are
met only behind the last quote.
-/

namespace LintRun.Shell

variable {inner : Read (List Command)} {fuel : Nat} {p q r : Place} {text after : List Char}

/-- Whether a text is written as it is. -/
def isPlain (text : List Char) : Bool := !text.isEmpty && text.all isSafe

/-- The word that a text is written as. -/
def Word.quoting (text : List Char) : Word := .mk (quoteChars text) [.text text (!isPlain text)]

/-- A word ends here: at the end of a text, of a line, or at a space. -/
def EndsWord (after : List Char) : Prop := ∀ c ∈ after.head?, c = ' ' ∨ c = '\n'

theorem EndsWord.wordEnd (h : EndsWord after) (bash : Bool) : wordEnd bash after = true := by
  cases after with
  | nil => rfl
  | cons c after => obtain rfl | rfl := h c rfl <;> rfl

/-- A word goes on at every character that is no mark of the grammar. -/
theorem wordEnd_cons {c : Char} (h : isMeta c = false) (bash : Bool) (rest : List Char) :
    wordEnd bash (c :: rest) = false := by
  unfold wordEnd
  split
  case h_1 e | h_2 e =>
    obtain rfl := (List.cons.inj e).1
    exact absurd h (by decide)
  case h_3 e => rwa [← (List.cons.inj e).1]
  case h_4 e => cases e

/-! ### Pieces -/

/-- Nothing is read at an end. -/
theorem readPieces_of_stop {quoting : Quoting} {braced : Bool} {stop : Stop}
    (h : (p.rest.isEmpty || stop p.rest) = true) :
    (readPieces inner quoting braced stop (fuel + 1)).run p = .ok ([], p) := by
  rw [readPieces]
  simp only [StateT.run_bind, StateT.run_get, pure_bind, h, if_true]
  rfl

theorem readPieces_of_endsWord (hp : p.rest = after) (h : EndsWord after) (bash : Bool) :
    (readPieces inner .none false (wordEnd bash) (fuel + 1)).run p = .ok ([], p) :=
  readPieces_of_stop (by rw [hp, h.wordEnd, Bool.or_true])

/-- A character that may start something is read as a piece of its own. -/
theorem readPieces_of_piece {quoting : Quoting} {braced : Bool} {stop : Stop} {c : Char}
    {first more : List Piece} (hp : p.rest = c :: after) (hc : isOrdinary c = false)
    (hstop : stop (c :: after) = false)
    (hfirst : (readPiece inner quoting braced fuel).run p = .ok (first, q))
    (hmore : (readPieces inner quoting braced stop fuel).run q = .ok (more, r)) :
    (readPieces inner quoting braced stop (fuel + 1)).run p =
      .ok (joinTexts (first ++ more), r) := by
  have hrun : (p.rest.takeWhile fun c => isOrdinary c && !stop [c]).isEmpty = true := by
    simp [hp, hc]
  have hgo : (p.rest.isEmpty || stop p.rest) = false := by simpa [hp] using hstop
  rw [readPieces]
  simp only [StateT.run_bind, StateT.run_get, pure_bind, hgo, hrun, if_true, Bool.false_eq_true,
    if_false, hfirst, Read.ok_bind, hmore]
  rfl

/-- Characters that start nothing are read together. -/
theorem readPieces_of_ordinary {quoting : Quoting} {braced : Bool} {stop : Stop} {more : List Piece}
    (hne : text ≠ []) (hrun : (p.rest.takeWhile fun c => isOrdinary c && !stop [c]) = text)
    (hstop : stop p.rest = false)
    (hmore : (readPieces inner quoting braced stop fuel).run (p.skip text.length) = .ok (more, r)) :
    (readPieces inner quoting braced stop (fuel + 1)).run p =
      .ok (joinTexts (.text text (quoting ≠ .none) :: more), r) := by
  have hgo : (p.rest.isEmpty || stop p.rest) = false := by
    have hrest : p.rest ≠ [] := fun h => hne (by rw [← hrun, h]; rfl)
    simpa [hstop] using hrest
  have hempty : text.isEmpty = false := by simpa using hne
  rw [readPieces]
  simp only [StateT.run_bind, StateT.run_get, pure_bind, hgo, hrun, hempty, Bool.false_eq_true,
    if_false, StateT.run_set, hmore, Read.ok_bind]
  rfl

/-! ### Between quotes -/

/-- A text goes on from one single quote to the next. -/
theorem quoteInduction {motive : List Char → Prop} (rest : ∀ text, '\'' ∉ text → motive text)
    (quote : ∀ text more, '\'' ∉ text → motive more → motive (text ++ '\'' :: more))
    (text : List Char) :
    motive text := by
  by_cases h : '\'' ∈ text
  · obtain ⟨first, more, rfl, hfirst⟩ := List.eq_append_cons_of_mem h
    exact quote first more hfirst (quoteInduction rest quote more)
  · exact rest text h
termination_by text.length

/-- Between quotes a text without single quotes is written as it is. -/
theorem flatMap_quotedChar (h : '\'' ∉ text) : text.flatMap quotedChar = text := by
  induction text with
  | nil => rfl
  | cons c text ih =>
    rw [List.mem_cons, not_or] at h
    simp [quotedChar, Ne.symm h.1, ih h.2]

theorem readSingle_run (hp : p.rest = text ++ '\'' :: after) (ht : '\'' ∉ text) :
    readSingle.run p = .ok (text, p.skip (text.length + 1)) := by
  have hinner : p.rest.takeWhile (· ≠ '\'') = text := by
    rw [hp, List.takeWhile_append_of_pos fun c hc => by simpa using fun h : c = '\'' => ht (h ▸ hc)]
    simp
  simp only [readSingle, StateT.run_bind, StateT.run_get, pure_bind, hinner]
  rw [if_pos (by simp [hp])]
  rfl

/-- A text between single quotes. -/
theorem readPiece_single (hp : p.rest = '\'' :: (text ++ '\'' :: after)) (ht : '\'' ∉ text) :
    (readPiece inner .none false (fuel + 1)).run p =
      .ok ([.text text true], p.skip (text.length + 2)) := by
  have hinside : (p.skip 1).rest = text ++ '\'' :: after := by simp [hp]
  have hsingle : readSingle.run (p.skip 1) = .ok (text, p.skip (text.length + 2)) := by
    rw [readSingle_run hinside ht, Place.skip_skip, Nat.add_comm 1]
  have hfault : (Read.mapFault (SyntaxFault.openedAt p.line '\'') readSingle).run (p.skip 1) =
      .ok (text, p.skip (text.length + 2)) := by
    show (readSingle.run (p.skip 1)).mapError _ = _
    rw [hsingle]
    rfl
  rw [readPiece]
  simp only [StateT.run_bind, StateT.run_get, pure_bind, hp]
  rw [if_neg (not_not.2 rfl)]
  simp only [StateT.run_bind, StateT.run_set, pure_bind, hfault, Read.ok_bind]
  rfl

/-- A single quote between double quotes. -/
theorem readPiece_double (hp : p.rest = '"' :: '\'' :: '"' :: after) :
    (readPiece inner .none false (fuel + 4)).run p =
      .ok ([.text [] true, .text ['\''] true], p.skip 3) := by
  have hquote : (p.skip 1).rest = '\'' :: '"' :: after := by simp [hp]
  have hliteral : (readPiece inner .double false (fuel + 2)).run (p.skip 1) =
      .ok ([.text ['\''] true], p.skip 2) := by
    rw [readPiece]
    simp only [StateT.run_bind, StateT.run_get, pure_bind, hquote]
    rw [if_pos (by decide)]
    simp only [StateT.run_bind, StateT.run_set, pure_bind, Place.skip_skip]
    rfl
  have hinside : (readPieces inner .double false (endAt ['"']) (fuel + 3)).run (p.skip 1) =
      .ok ([.text ['\''] true], p.skip 2) :=
    readPieces_of_piece hquote (by decide) (by simp [endAt])
      hliteral (readPieces_of_stop (by simp [hp, endAt]))
  rw [readPiece]
  simp only [StateT.run_bind, StateT.run_get, pure_bind, hp]
  rw [if_neg (by decide), if_neg (by decide)]
  have hclosed : (p.skip 2).rest.isEmpty = false := by simp [hp]
  simp only [StateT.run_bind, StateT.run_set, StateT.run_get, pure_bind, hinside, Read.ok_bind,
    hclosed, Bool.false_eq_true, if_false, run_skip, Place.skip_skip]
  rfl

/-- **A text between quotes is read back**, up to the end of the word and not further. -/
theorem readPieces_quoted (bash : Bool) (hafter : EndsWord after) {text : List Char} {fuel : Nat}
    {p : Place} (hfuel : 2 * text.length + 5 ≤ fuel)
    (hp : p.rest = '\'' :: (text.flatMap quotedChar ++ '\'' :: after)) :
    (readPieces inner .none false (wordEnd bash) fuel).run p =
      .ok ([.text text true], p.skip ((text.flatMap quotedChar).length + 2)) := by
  induction text using quoteInduction generalizing fuel p with
  | rest text ht =>
    obtain ⟨fuel, rfl⟩ : ∃ k, fuel = k + 2 := ⟨fuel - 2, by omega⟩
    rw [flatMap_quotedChar ht] at hp ⊢
    have hend : (p.skip (text.length + 2)).rest = after := by simp [hp]
    exact readPieces_of_piece hp (by decide) (wordEnd_cons (by decide) _ _) (readPiece_single hp ht)
      (readPieces_of_endsWord hend hafter bash)
  | quote text more ht ih =>
    rw [List.length_append, List.length_cons] at hfuel
    obtain ⟨fuel, rfl⟩ : ∃ k, fuel = k + 6 := ⟨fuel - 6, by omega⟩
    have hwritten : (text ++ '\'' :: more).flatMap quotedChar =
        text ++ '\'' :: '"' :: '\'' :: '"' :: '\'' :: more.flatMap quotedChar := by
      simp [flatMap_quotedChar ht, quotedChar]
    rw [hwritten] at hp ⊢
    rw [List.append_assoc, List.cons_append] at hp
    -- a part between single quotes, a single quote between double quotes, and the rest
    set mid := p.skip (text.length + 2) with hmid
    have hdouble : mid.rest =
        '"' :: '\'' :: '"' :: '\'' :: (more.flatMap quotedChar ++ '\'' :: after) := by
      simp [hmid, hp]
    have hmore := @ih (fuel + 4) (mid.skip 3) (by omega) (by simp [hdouble])
    have hrest := readPieces_of_piece hdouble (by decide) (wordEnd_cons (by decide) _ _)
      (readPiece_double hdouble)
      hmore
    rw [readPieces_of_piece hp (by decide) (wordEnd_cons (by decide) _ _)
      (readPiece_single hp ht) hrest]
    simp only [hmid, Place.skip_skip, List.length_append, List.length_cons]
    congr 3
    omega

/-! ### Safe characters -/

theorem isOrdinary_of_isSafe {c : Char} (h : isSafe c) : isOrdinary c ∨ c = '@' ∨ c = '+' := by
  have hmarks : ∀ c ∈ "_@%+=:,./-".toList, isOrdinary c ∨ c = '@' ∨ c = '+' := by
    rw [← List.all_iff_forall_prop]
    decide
  rw [isSafe, Bool.or_eq_true, Bool.or_eq_true] at h
  rcases h with (hdigit | hletter) | hmark
  · exact .inl (by simp [isOrdinary, hdigit])
  · exact .inl (by simp [isOrdinary, hletter])
  · exact hmarks c (List.contains_iff_mem.1 hmark)

theorem isMeta_of_isSafe {c : Char} (h : isSafe c) : isMeta c = false := by
  have hmarks : ∀ c ∈ " \t\n;&|<>()".toList, isSafe c = false := by
    rw [← List.all_iff_forall_prop]
    decide
  rw [Bool.eq_false_iff]
  intro hmeta
  rw [hmarks c (List.contains_iff_mem.1 hmeta)] at h
  cases h

/-- A character that starts something only in front of a bracket. -/
theorem readPiece_literal {c : Char} (hc : c = '@' ∨ c = '+') (hp : p.rest = c :: after)
    (hafter : after.head? ≠ some '(') :
    (readPiece inner .none false (fuel + 1)).run p = .ok ([.text [c] false], p.skip 1) := by
  rw [readPiece]
  simp only [StateT.run_bind, StateT.run_get, pure_bind, hp]
  -- neither of the two characters has a branch of its own unless a bracket follows
  rcases hc with rfl | rfl <;> split <;> simp_all
  all_goals
    obtain ⟨rfl, -⟩ := ‹_ = _ ∧ _›
    rfl

/-- The pieces of a text that is written as it is. -/
def plainPieces (text : List Char) : List Piece := if text.isEmpty then [] else [.text text false]

theorem joinTexts_plainPieces (h : text ≠ []) (more : List Char) :
    joinTexts (.text text false :: plainPieces more) = plainPieces (text ++ more) := by
  cases more with
  | nil => simp [plainPieces, joinTexts, h]
  | cons c more => simp [plainPieces, joinTexts]

theorem wordEnd_singleton (bash : Bool) (c : Char) :
    wordEnd bash [c] = isMeta c := by simp [wordEnd]

/-- Of safe characters in front of an end, those are read together that start nothing. -/
theorem takeWhile_safe (bash : Bool) (hafter : EndsWord after) (hsafe : ∀ c ∈ text, isSafe c) :
    ((text ++ after).takeWhile fun c => isOrdinary c && !wordEnd bash [c]) =
      text.takeWhile isOrdinary := by
  induction text with
  | nil =>
    cases after with
    | nil => rfl
    | cons c after =>
      have hc : isMeta c = true := by obtain rfl | rfl := hafter c rfl <;> rfl
      simp [wordEnd_singleton, hc]
  | cons c text ih =>
    have hc := isMeta_of_isSafe (hsafe c List.mem_cons_self)
    simp only [List.cons_append, List.takeWhile_cons, wordEnd_singleton, hc, Bool.not_false,
      Bool.and_true]
    rw [← ih fun d hd => hsafe d (List.mem_cons_of_mem c hd)]
    simp only [wordEnd_singleton]

/-- Safe characters in front of an end are followed by nothing but an end. -/
theorem head?_ne_of_safe {c : Char} (hafter : EndsWord after) (hsafe : ∀ c ∈ text, isSafe c)
    (hc : isSafe c = false) (hspace : c ≠ ' ') (hline : c ≠ '\n') :
    (text ++ after).head? ≠ some c := by
  cases text with
  | nil => exact fun h => (hafter c h).elim hspace hline
  | cons d text =>
    intro h
    obtain rfl : d = c := Option.some.inj h
    rw [hsafe d List.mem_cons_self] at hc
    cases hc

/-- **Safe characters are read back**, up to the end of the word and not further. -/
theorem readPieces_safe (bash : Bool) (hafter : EndsWord after) {text : List Char} {fuel : Nat}
    {p : Place} (hfuel : text.length < fuel) (hp : p.rest = text ++ after)
    (hsafe : ∀ c ∈ text, isSafe c) :
    (readPieces inner .none false (wordEnd bash) fuel).run p =
      .ok (plainPieces text, p.skip text.length) := by
  -- on the fuel, since as many characters are read at once as start nothing
  induction fuel generalizing text p with
  | zero => omega
  | succ fuel ih =>
    cases text with
    | nil => simpa [plainPieces] using readPieces_of_endsWord hp hafter bash
    | cons c rest =>
      have hstop := wordEnd_cons (isMeta_of_isSafe (hsafe c List.mem_cons_self)) bash
      by_cases hc : isOrdinary c
      · set first := (c :: rest).takeWhile isOrdinary with hfirst
        set more := (c :: rest).dropWhile isOrdinary with hmore
        have hsplit : first ++ more = c :: rest := List.takeWhile_append_dropWhile
        have hne : first ≠ [] := by simp [hfirst, hc]
        have hlength : first.length + more.length = (c :: rest).length := by
          rw [← hsplit, List.length_append]
        have hread := @ih more (p.skip first.length) (by have := List.length_pos_iff.2 hne; omega)
          (by simp [hp, ← hsplit]) fun d hd => hsafe d (hsplit ▸ List.mem_append_right first hd)
        rw [readPieces_of_ordinary hne (by rw [hp, takeWhile_safe bash hafter hsafe])
          (by rw [hp, List.cons_append, hstop]) hread, Place.skip_skip, hlength,
          show decide (Quoting.none ≠ .none) = false by decide, joinTexts_plainPieces hne, hsplit]
      · obtain ⟨fuel, rfl⟩ : ∃ k, fuel = k + 1 := ⟨fuel - 1, by simp at hfuel; omega⟩
        have hmark := (isOrdinary_of_isSafe (hsafe c List.mem_cons_self)).resolve_left hc
        have hbracket : (rest ++ after).head? ≠ some '(' :=
          head?_ne_of_safe hafter (fun d hd => hsafe d (List.mem_cons_of_mem c hd)) (by decide)
            (by decide) (by decide)
        have hread := @ih rest (p.skip 1) (by simpa using hfuel) (by simp [hp])
          fun d hd => hsafe d (List.mem_cons_of_mem c hd)
        rw [readPieces_of_piece hp (by simpa using hc) (hstop _)
          (readPiece_literal hmark hp hbracket) hread,
          List.singleton_append, joinTexts_plainPieces (List.cons_ne_nil c []),
          Place.skip_skip, Nat.add_comm 1]
        rfl

/-! ### Words -/

theorem isPlain_iff : isPlain text ↔ text ≠ [] ∧ ∀ c ∈ text, isSafe c := by
  simp [isPlain]

theorem quoteChars_of_isPlain (h : isPlain text) : quoteChars text = text := if_pos h

theorem quoteChars_of_not_isPlain (h : ¬isPlain text) :
    quoteChars text = '\'' :: (text.flatMap quotedChar ++ ['\'']) := if_neg h

/-- Quotes only add characters. -/
theorem length_le_flatMap_quotedChar (text : List Char) :
    text.length ≤ (text.flatMap quotedChar).length := by
  induction text with
  | nil => exact le_refl _
  | cons c text ih =>
    have hc : 1 ≤ (quotedChar c).length := by
      unfold quotedChar
      split <;> simp
    simp only [List.flatMap_cons, List.length_append, List.length_cons]
    omega

theorem length_le_quoteChars (text : List Char) : text.length ≤ (quoteChars text).length := by
  by_cases h : isPlain text
  · rw [quoteChars_of_isPlain h]
  · have := length_le_flatMap_quotedChar text
    rw [quoteChars_of_not_isPlain h, List.length_cons, List.length_append]
    omega

/-- What a text is written as is read back, up to the end of the word and not further. -/
theorem readPieces_quoteChars (bash : Bool) (hafter : EndsWord after)
    (hfuel : 2 * text.length + 5 ≤ fuel) (hp : p.rest = quoteChars text ++ after) :
    (readPieces inner .none false (wordEnd bash) fuel).run p =
      .ok ((Word.quoting text).pieces, p.skip (quoteChars text).length) := by
  by_cases h : isPlain text
  · obtain ⟨hne, hsafe⟩ := isPlain_iff.1 h
    rw [quoteChars_of_isPlain h] at hp ⊢
    rw [readPieces_safe bash hafter (by omega) hp hsafe]
    simp [plainPieces, Word.quoting, Word.pieces, h, hne]
  · rw [quoteChars_of_not_isPlain h] at hp ⊢
    rw [readPieces_quoted bash hafter hfuel (by simpa using hp)]
    simp [Word.quoting, Word.pieces, h]

/-- What was read is the source as it stands, if no part of it is written in another way. -/
theorem sourceBetween_skip (hspans : p.spans = []) (n : Nat) :
    sourceBetween p (p.skip n) = p.rest.take n := by
  simp [sourceBetween, hspans, respell]

/-- A word has the pieces that are read up to its end. -/
theorem readWord_of_pieces {pieces : List Piece} {n : Nat} (hspans : p.spans = [])
    (hpieces : (readPieces inner .none false (wordEnd p.isBash) (readBound p)).run p =
      .ok (pieces, p.skip n)) :
    (readWord inner).run p = .ok (.mk (p.rest.take n) pieces, p.skip n) := by
  simp only [readWord, readWordTo, withSource, readUpTo, StateT.run_bind, StateT.run_get,
    pure_bind, Read.ok_bind, hpieces, StateT.run_pure, sourceBetween_skip hspans]
  rfl

/-- **The word that stands for a text is read from what the text is written as**, and nothing behind
it. -/
theorem readWord_quoteChars (hafter : EndsWord after) (hp : p.rest = quoteChars text ++ after)
    (hspans : p.spans = []) :
    (readWord inner).run p = .ok (.quoting text, p.skip (quoteChars text).length) := by
  have hfuel : 2 * text.length + 5 ≤ readBound p := by
    have := length_le_quoteChars text
    rw [readBound, hp, List.length_append]
    omega
  rw [readWord_of_pieces hspans (readPieces_quoteChars p.isBash hafter hfuel hp), hp,
    List.take_left]
  rfl

/-- No word stands at the end of a word. -/
theorem readWord_of_wordEnd (h : wordEnd p.isBash p.rest) (hspans : p.spans = []) :
    (readWord inner).run p = .ok (.mk [] [], p) := by
  have hpieces : (readPieces inner .none false (wordEnd p.isBash) (readBound p)).run p =
      .ok ([], p.skip 0) := by
    rw [Place.skip_zero]
    exact readPieces_of_stop (by rw [h, Bool.or_true])
  rw [readWord_of_pieces hspans hpieces, Place.skip_zero]
  rfl

/-- A word is written with at least one character. -/
theorem Word.source_quoting_ne_nil (text : List Char) : (Word.quoting text).source ≠ [] := by
  show quoteChars text ≠ []
  by_cases h : isPlain text
  · rw [quoteChars_of_isPlain h]
    exact (isPlain_iff.1 h).1
  · rw [quoteChars_of_not_isPlain h]
    exact List.cons_ne_nil _ _

end LintRun.Shell
