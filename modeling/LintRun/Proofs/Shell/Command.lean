import Mathlib
import LintRun.Proofs.Shell.Word
import LintRun.Shell.Reader.Script

/-!
# Proofs — Shell — Commands with quoted words

What stands behind the name of a command that is written from texts is read back part by part: no
part runs into the next one, and none is taken for something else.

* `Written`: what may stand there, how it is written, and the part of a command that it is.
* `isUnredirected`: no redirection begins here; so it is in front of every text that is written as a
  word (`isUnredirected_quoteChars`).
* `EndsCommand`: where a command ends.
* `readElements_part`, `readElements_written`: one part is read, and all of them.
-/

namespace LintRun.Shell

variable {inner : Read (List Command)} {fuel : Nat} {p q r : Place} {text after : List Char}

/-! ### What stands behind a name -/

/-- Something that stands behind the name of a command. -/
inductive Written
  /-- A text, written as a word. -/
  | text (t : List Char)
  /-- The status of the last command. -/
  | status
  /-- Output that goes where errors go. -/
  | toErrors

/-- The word `$?`. -/
def statusWord : Word := .mk ['$', '?'] [.parameter (.mk "?" .none false) .plain false]

/-- The redirection `1>&2`. -/
def outputToErrors : Redirect := .mk (some (.number 1)) .copyOut (.mk ['2'] [.text ['2'] false])

namespace Written

def chars : Written → List Char
  | .text t => quoteChars t
  | .status => ['$', '?']
  | .toErrors => ['1', '>', '&', '2']

def part : Written → SimplePart
  | .text t => .argument (.word (.quoting t))
  | .status => .argument (.word statusWord)
  | .toErrors => .redirect outputToErrors

end Written

/-- The status of the last command is a word of its own. -/
theorem readWord_status (hafter : EndsWord after) (hp : p.rest = '$' :: '?' :: after)
    (hspans : p.spans = []) :
    (readWord inner).run p = .ok (statusWord, p.skip 2) := by
  obtain ⟨fuel, hfuel⟩ : ∃ k, readBound p = k + 3 := ⟨readBound p - 3, by unfold readBound; omega⟩
  have hparameter : (readPiece inner .none false (fuel + 2)).run p =
      .ok ([.parameter (.mk "?" .none false) .plain false], p.skip 2) := by
    have hmark : (p.skip 1).rest = '?' :: after := by simp [hp]
    rw [readPiece]
    simp only [StateT.run_bind, StateT.run_get, pure_bind, hp, StateT.run_set]
    rw [readDollar]
    simp only [StateT.run_bind, StateT.run_get, pure_bind, hmark]
    -- this mark is a parameter, and opens nothing
    split
    case h_7 c rest _ _ _ _ _ _ e =>
      obtain ⟨rfl, rfl⟩ := List.cons.inj e
      rw [if_neg (by decide), if_pos (by decide)]
      simp only [StateT.run_bind, StateT.run_set, pure_bind, Place.skip_skip]
      rfl
    all_goals simp_all
  have hend : (p.skip 2).rest = after := by simp [hp]
  have hpieces : (readPieces inner .none false (wordEnd p.isBash) (readBound p)).run p =
      .ok ([.parameter (.mk "?" .none false) .plain false], p.skip 2) := by
    rw [hfuel]
    exact readPieces_of_piece hp (by decide) (wordEnd_cons (by decide) _ _) hparameter
      (readPieces_of_endsWord hend hafter _)
  rw [readWord_of_pieces hspans hpieces, hp]
  rfl

/-! ### Redirections -/

/-- Without what it begins with of a kind, a list is what is left of it. -/
theorem drop_length_takeWhile {α : Type} (test : α → Bool) (xs : List α) :
    xs.drop (xs.takeWhile test).length = xs.dropWhile test := by
  induction xs with
  | nil => rfl
  | cons x xs ih =>
    rw [List.takeWhile_cons, List.dropWhile_cons]
    split
    · simpa using ih
    · rfl

/-- Whether no redirection begins with these characters: neither an operator nor what may stand in
front of one. -/
def isUnredirected (rest : List Char) : Bool :=
  !(rest.head?.any "<>&\x7b".toList.contains) &&
    !((rest.dropWhile Text.isAsciiDigit).head?.any "<>".toList.contains)

theorem redirection?_eq_none (h : isUnredirected p.rest) : p.redirection? = none := by
  have hhead : p.rest.head?.any "<>&\x7b".toList.contains = false := by
    simp only [isUnredirected, Bool.and_eq_true, Bool.not_eq_true'] at h
    exact h.1
  have hoperators : ∀ d, ∀ x ∈ redirections d, x.1.toList.head?.any "<>&\x7b".toList.contains := by
    intro d
    cases d <;> decide
  rw [Place.redirection?, Place.starts_eq_false (by decide) hhead,
    Place.starts_eq_false (by decide) hhead, Bool.or_self, Bool.and_false,
    if_neg Bool.false_ne_true, List.find?_eq_none]
  intro x hx
  rw [Bool.not_eq_true]
  exact Place.starts_eq_false (hoperators _ x hx) hhead

theorem handle?_eq_none (h : isUnredirected p.rest) : p.handle? = none := by
  simp only [isUnredirected, Bool.and_eq_true, Bool.not_eq_true'] at h
  have hoperator : ∀ c, c = '<' ∨ c = '>' →
      (p.rest.dropWhile Text.isAsciiDigit).head? ≠ some c := by
    rintro c (rfl | rfl) hhead
    all_goals
      rw [hhead] at h
      exact absurd h.2 (by decide)
  have hbrace : p.rest.head? ≠ some '\x7b' := by
    intro hhead
    rw [hhead] at h
    exact absurd h.1 (by decide)
  simp only [Place.handle?, Place.peek, Place.skip_rest, drop_length_takeWhile,
    hoperator _ (.inl rfl), hoperator _ (.inr rfl), decide_false, Bool.or_self, Bool.and_false,
    Bool.false_eq_true, if_false]
  split
  case h_1 rest _ hrest => exact absurd (by rw [hrest]; rfl) hbrace
  · rfl

/-- Where no redirection begins, none is read. -/
theorem readRedirect?_eq_none (h : isUnredirected p.rest) :
    (readRedirect? inner).run p = .ok (none, p) := by
  simp only [readRedirect?, StateT.run_bind, StateT.run_get, pure_bind, handle?_eq_none h,
    redirection?_eq_none h]
  rfl

/-- The redirection of output to where errors go is read back. -/
theorem readRedirect?_toErrors (hafter : EndsWord after)
    (hp : p.rest = Written.toErrors.chars ++ after) (hspans : p.spans = []) :
    (readRedirect? inner).run p = .ok (some outputToErrors, p.skip 4) := by
  have hrest : p.rest = '1' :: '>' :: '&' :: '2' :: after := hp
  have hhandle : p.handle? = some (.number 1, p.skip 1) := by
    have hdigits : p.rest.takeWhile Text.isAsciiDigit = ['1'] := by
      rw [hrest, List.takeWhile_cons, if_pos (by decide), List.takeWhile_cons, if_neg (by decide)]
    simp only [Place.handle?, hdigits]
    rw [if_pos (by simp [Place.peek, hrest])]
    rfl
  have hoperator : (p.skip 1).redirection? = some (">&", .copyOut) := by
    have hstarts (mark : String) : (p.skip 1).starts mark =
        mark.toList.isPrefixOf ('>' :: '&' :: '2' :: after) := by
      rw [Place.starts, Place.skip_rest, hrest, List.drop_succ_cons, List.drop_zero]
    rw [Place.redirection?, hstarts, hstarts]
    cases (p.skip 1).manner.dialect <;> simp [redirections, List.find?, hstarts, List.isPrefixOf]
  have hblanks : ((p.skip 1).skip ">&".length).blanks = p.skip 3 := by
    rw [Place.blanks_of_solid (by simp [hrest]; rfl), Place.skip_skip]
    rfl
  have htarget : (readWord inner).run (p.skip 3) = .ok (.quoting ['2'], p.skip 4) := by
    have hdigit : (p.skip 3).rest = quoteChars ['2'] ++ after := by
      rw [Place.skip_rest, hrest]
      rfl
    rw [readWord_quoteChars hafter hdigit (by simpa using hspans), Place.skip_skip]
    rfl
  have hwritten : (Word.quoting ['2']).source.isEmpty = false := rfl
  simp only [readRedirect?, StateT.run_bind, StateT.run_get, pure_bind, hhandle, hoperator,
    StateT.run_set, hblanks, htarget, Read.ok_bind, hwritten, Bool.false_eq_true, if_false]
  rfl

/-! ### How a part begins -/

/-- A text that is written as a word begins with a quote or with a safe character. -/
theorem exists_quoteChars_eq_cons (text : List Char) :
    ∃ c rest, quoteChars text = c :: rest ∧ (c = '\'' ∨ isSafe c) := by
  by_cases h : isPlain text
  · obtain ⟨hne, hsafe⟩ := isPlain_iff.1 h
    obtain ⟨c, rest, rfl⟩ := List.exists_cons_of_ne_nil hne
    exact ⟨c, rest, quoteChars_of_isPlain h, .inr (hsafe c List.mem_cons_self)⟩
  · exact ⟨_, _, quoteChars_of_not_isPlain h, .inl rfl⟩

theorem Written.exists_chars_eq_cons (w : Written) :
    ∃ c rest, w.chars = c :: rest ∧ (c = '\'' ∨ c = '$' ∨ isSafe c) := by
  cases w with
  | text t =>
    obtain ⟨c, rest, hwritten, hc⟩ := exists_quoteChars_eq_cons t
    exact ⟨c, rest, hwritten, hc.imp_right .inr⟩
  | status => exact ⟨_, _, rfl, .inr (.inl rfl)⟩
  | toErrors => exact ⟨_, _, rfl, .inr (.inr rfl)⟩

/-- Nothing is passed over in front of a part of a command. -/
theorem Written.isSolid_chars (w : Written) (after : List Char) :
    Place.isSolid (w.chars ++ after) := by
  obtain ⟨c, rest, hwritten, hc⟩ := w.exists_chars_eq_cons
  rw [hwritten, List.cons_append]
  unfold Place.isSolid
  split
  case h_5 => rfl
  all_goals
    obtain ⟨rfl, -⟩ := List.cons.inj ‹_ :: _ = _›
    exact absurd hc (by decide)

/-- No part of a command begins with a bracket. -/
theorem Written.head?_chars (w : Written) (after : List Char) :
    (w.chars ++ after).head?.any ['('].contains = false := by
  obtain ⟨c, rest, hwritten, hc⟩ := w.exists_chars_eq_cons
  have hne : c ≠ '(' := by
    rintro rfl
    exact absurd hc (by decide)
  simpa [hwritten] using hne

/-- Characters of a kind are passed over in front of the end of a word, and no further. -/
theorem dropWhile_append_of_endsWord {test : Char → Bool} (hspace : test ' ' = false)
    (hline : test '\n' = false) (hafter : EndsWord after) (text : List Char) :
    (text ++ after).dropWhile test = text.dropWhile test ++ after := by
  induction text with
  | nil =>
    cases after with
    | nil => rfl
    | cons c after => obtain rfl | rfl := hafter c rfl <;> simp [hspace, hline]
  | cons c text ih =>
    rw [List.cons_append, List.dropWhile_cons, List.dropWhile_cons, ih]
    split <;> rfl

/-- No redirection begins with a text that is written as a word. -/
theorem isUnredirected_quoteChars (hafter : EndsWord after) (text : List Char) :
    isUnredirected (quoteChars text ++ after) := by
  have hmarks : ∀ c ∈ "<>&\x7b".toList, ¬(c = '\'' ∨ isSafe c) := by
    rw [← List.all_iff_forall_prop]
    decide
  have hoperators : ∀ c ∈ "<>".toList, isSafe c = false ∧ c ≠ ' ' ∧ c ≠ '\n' := by
    rw [← List.all_iff_forall_prop]
    decide
  have hhead : (quoteChars text ++ after).head?.any "<>&\x7b".toList.contains = false := by
    obtain ⟨c, rest, hwritten, hc⟩ := exists_quoteChars_eq_cons text
    rw [hwritten, List.cons_append, List.head?_cons, Option.any_some, Bool.eq_false_iff]
    exact fun hmark => hmarks c (List.contains_iff_mem.1 hmark) hc
  have hdigits : ((quoteChars text ++ after).dropWhile Text.isAsciiDigit).head?.any
      "<>".toList.contains = false := by
    by_cases h : isPlain text
    -- a text of digits alone would be taken for a handle, if an operator could follow it
    · have hsafe : ∀ c ∈ text.dropWhile Text.isAsciiDigit, isSafe c := fun c hc =>
        (isPlain_iff.1 h).2 c ((List.dropWhile_sublist _).subset hc)
      rw [quoteChars_of_isPlain h, dropWhile_append_of_endsWord rfl rfl hafter, Option.any_eq_false]
      intro c hc
      rw [Bool.eq_false_iff]
      intro hmark
      obtain ⟨hmarked, hspace, hline⟩ := hoperators c (List.contains_iff_mem.1 hmark)
      exact head?_ne_of_safe hafter hsafe hmarked hspace hline hc
    · rw [quoteChars_of_not_isPlain h]
      rfl
  rw [isUnredirected, hhead, hdigits]
  rfl

/-! ### Ends of commands -/

/-- A command ends here: at the end of a text or of a line, or in front of the command that is run
if it fails. -/
inductive EndsCommand : List Char → Prop
  | textEnd : EndsCommand []
  | lineEnd (more : List Char) : EndsCommand ('\n' :: more)
  | orElse (more : List Char) : EndsCommand (' ' :: '|' :: '|' :: more)

/-- What is left of the end of a command once its blank is passed over. -/
def afterBlank : List Char → List Char
  | ' ' :: rest => rest
  | rest => rest

namespace EndsCommand

theorem endsWord (h : EndsCommand after) : EndsWord after := by
  cases h <;> simp [EndsWord]

theorem blanks_rest (h : EndsCommand after) (hp : p.rest = after) :
    p.blanks.rest = afterBlank after := by
  cases h with
  | textEnd | lineEnd more =>
    rw [Place.blanks_of_solid (by rw [hp]; rfl), hp]
    rfl
  | orElse more =>
    rw [Place.blanks_of_space hp rfl, Place.skip_rest, hp]
    rfl

end EndsCommand

/-! ### Parts -/

/-- A word of a command that is no assignment. -/
theorem readElements_word {phase next : Phase} {w : Word} {more : List (SimplePart × Nat)}
    {final : Place} (hblanks : p.blanks = q) (hunredirected : isUnredirected q.rest)
    (hassignment : phase = .plain ∨ (readAssignment? inner true).run q = .ok (none, q))
    (hword : (readWord inner).run q = .ok (w, r)) (hsource : w.source ≠ [])
    (hname : phase = .front → r.blanks.starts "(" = false)
    (hnext : (if phase = .front then Phase.after q.manner.dialect w else phase) = next)
    (hmore : (readElements inner next fuel).run r = .ok (more, final)) :
    (readElements inner phase (fuel + 1)).run p =
      .ok ((.argument (.word w), r.line) :: more, final) := by
  have hempty : w.source.isEmpty = false := by simpa using hsource
  have hassign :
      (if phase = .plain then pure none
        else readAssignment? inner true : Read (Option Assignment)).run q = .ok (none, q) := by
    split_ifs with h
    · rfl
    · exact hassignment.resolve_left h
  have hbracket : (decide (phase = .front) && r.blanks.starts "(") = false := by
    by_cases h : phase = .front
    · simp [hname h]
    · simp [h]
  rw [readElements]
  simp only [StateT.run_bind, StateT.run_get, pure_bind, run_blanks, Read.ok_bind, hblanks,
    readRedirect?_eq_none hunredirected, hassign, hword, hempty, Bool.false_eq_true, if_false,
    hbracket, hnext, hmore]
  rfl

/-- Nothing of a command stands at its end. -/
theorem readElements_of_endsCommand (hafter : EndsCommand after) (hp : p.rest = after)
    (hspans : p.spans = []) :
    (readElements inner .plain (fuel + 1)).run p = .ok ([], p.blanks) := by
  have hrest := hafter.blanks_rest hp
  have hunredirected : isUnredirected p.blanks.rest := by
    rw [hrest]
    cases hafter <;> rfl
  have hend : wordEnd p.blanks.isBash p.blanks.rest := by
    rw [hrest]
    cases hafter <;> rfl
  have hword := @readWord_of_wordEnd inner _ hend ((Place.blanks_spans p).trans hspans)
  rw [readElements]
  simp only [StateT.run_bind, StateT.run_get, pure_bind, run_blanks, Read.ok_bind,
    readRedirect?_eq_none hunredirected, if_true, hword]
  rfl

/-- A redirection of a command. -/
theorem readElements_redirect {phase : Phase} {redirect : Redirect} {more : List (SimplePart × Nat)}
    {final : Place} (hblanks : p.blanks = q)
    (hredirect : (readRedirect? inner).run q = .ok (some redirect, r))
    (hmore : (readElements inner phase fuel).run r = .ok (more, final)) :
    (readElements inner phase (fuel + 1)).run p =
      .ok ((.redirect redirect, q.line) :: more, final) := by
  rw [readElements]
  simp only [StateT.run_bind, StateT.run_get, pure_bind, run_blanks, Read.ok_bind, hblanks,
    hredirect, hmore]
  rfl

/-- One part behind the name of a command. -/
theorem readElements_part {w : Written} {more : List (SimplePart × Nat)} {final : Place}
    (hafter : EndsWord after) (hp : p.rest = ' ' :: (w.chars ++ after)) (hspans : p.spans = [])
    (hmore : (readElements inner .plain fuel).run (p.skip (w.chars.length + 1)) =
      .ok (more, final)) :
    ∃ line, (readElements inner .plain (fuel + 1)).run p = .ok ((w.part, line) :: more, final) := by
  have hrest : (p.skip 1).rest = w.chars ++ after := by simp [hp]
  have hspans' : (p.skip 1).spans = [] := by rw [Place.skip_spans, hspans]
  have hskip : (p.skip 1).skip w.chars.length = p.skip (w.chars.length + 1) := by
    rw [Place.skip_skip, Nat.add_comm 1]
  have hblanks := Place.blanks_of_space hp (w.isSolid_chars after)
  cases w with
  | text t =>
    have hword := @readWord_quoteChars inner _ t after hafter hrest hspans'
    exact ⟨_, readElements_word hblanks (hrest ▸ isUnredirected_quoteChars hafter t) (.inl rfl)
      (hword.trans (hskip ▸ rfl)) (Word.source_quoting_ne_nil t) (by simp) rfl hmore⟩
  | status =>
    have hword := @readWord_status inner _ after hafter hrest hspans'
    exact ⟨_, readElements_word hblanks (hrest ▸ rfl) (.inl rfl) (hword.trans (hskip ▸ rfl))
      (by simp [statusWord, Word.source]) (by simp) rfl hmore⟩
  | toErrors =>
    have hredirect := @readRedirect?_toErrors inner _ after hafter hrest hspans'
    exact ⟨_, readElements_redirect hblanks (hredirect.trans (hskip ▸ rfl)) hmore⟩

/-- **What stands behind the name of a command is read back**, part by part. -/
theorem readElements_written (hafter : EndsCommand after) (parts : List Written) {fuel : Nat}
    {p : Place} (hfuel : parts.length < fuel)
    (hp : p.rest = parts.flatMap (fun w => ' ' :: w.chars) ++ after) (hspans : p.spans = []) :
    ∃ found q, (readElements inner .plain fuel).run p = .ok (found, q) ∧
      found.map Prod.fst = parts.map Written.part ∧
      p.MovesTo q (afterBlank after) := by
  -- each part costs one unit of fuel, and its blank in front belongs to it
  induction parts generalizing fuel p with
  | nil =>
    obtain ⟨fuel, rfl⟩ : ∃ k, fuel = k + 1 := ⟨fuel - 1, by omega⟩
    refine ⟨[], p.blanks, readElements_of_endsCommand hafter hp hspans, rfl,
      hafter.blanks_rest hp, ?_, ?_⟩
    · rw [Place.blanks_spans, hspans]
    · exact Place.blanks_manner p
  | cons w parts ih =>
    obtain ⟨fuel, rfl⟩ : ∃ k, fuel = k + 1 := ⟨fuel - 1, by simp at hfuel; omega⟩
    have hends : EndsWord (parts.flatMap (fun w => ' ' :: w.chars) ++ after) := by
      cases parts with
      | nil => exact hafter.endsWord
      | cons next parts => simp [EndsWord]
    rw [List.flatMap_cons, List.cons_append, List.cons_append, List.append_assoc] at hp
    obtain ⟨found, q, hread, hparts, hmoves⟩ := @ih fuel (p.skip (w.chars.length + 1))
      (by simpa using hfuel)
      (by simp [hp]) (by simpa using hspans)
    obtain ⟨line, hfirst⟩ := readElements_part hends hp hspans hread
    exact ⟨_, q, hfirst, by simp [hparts], hmoves.rest_eq,
      hmoves.spans_eq, by simpa using hmoves.manner_eq⟩

end LintRun.Shell
