import Mathlib
import LintRun.Proofs.Shell.Command

/-!
# Proofs — Shell — Lines with quoted words

A text whose lines are written from commands with quoted words is read as these commands, line by
line.

* `IsCommandName`: a name begins a simple command and nothing else, unless it stands for another
  text (`Manner.Spares`).
* `Call`, `Line`: a command with something behind its name, and a line of one or two such commands;
  how they are written (`chars`) and what they mean (`Means`).
* `Call.readPipeline_call`, `Line.readLine_line`: a command and a line are read as what they mean,
  and nothing behind them.
* `ReadsAs`: a text holds commands of some kinds, each on a line of its own, and nothing else.
* `Line.readsAs`: so does a text that is written from lines.

The reader of each level of the grammar is one function, with a lemma that says where it stops on
what was written: a command at the end of its last word (`EndsCommand`), a line at the end of the
text or in front of the next line (`Line.Ends`). Each lemma rests on the one of the level below, and
rules out by the first characters what else might begin there.
-/

namespace LintRun.Shell

variable {inner : Read (List Command)} {fuel : Nat} {p : Place} {name after : List Char}

/-! ### Names of commands -/

/-- The marks that begin something else than a simple command, and those that close a list of
commands. -/
def openers : List String :=
  ["!", "time", "((", "[[", "(", "\x7b", "if", "while", "until", "for", "select", "case",
    "function"] ++ closers

/-- A name that begins a simple command and nothing else. -/
structure IsCommandName (name : List Char) : Prop where
  plain : isPlain name
  opens_nothing : ∀ mark ∈ openers, mark.toList.isPrefixOf name = false
  assigns_nothing : (name.dropWhile Text.isNameChar).head?.any "=+[".toList.contains = false
  declares_nothing : ∀ d, (declarers d).contains (String.ofList name) = false

/-- None of these names stands for another text. -/
def Manner.Spares (m : Manner) (names : List String) : Prop :=
  ∀ name ∈ names, m.aliases.lookup name = none

namespace IsCommandName

variable (h : IsCommandName name)
include h

theorem safe : ∀ c ∈ name, isSafe c := (isPlain_iff.1 h.plain).2

theorem quoteChars_eq : quoteChars name = name := quoteChars_of_isPlain h.plain

theorem starts_eq_false (hp : p.rest = name ++ ' ' :: after) {mark : String}
    (hmark : mark ∈ openers) :
    p.starts mark = false := by
  have hspace : ' ' ∉ mark.toList := by
    have : ∀ mark ∈ openers, ' ' ∉ mark.toList := by decide
    exact this mark hmark
  rw [Place.starts, hp, Place.isPrefixOf_append_cons hspace]
  exact h.opens_nothing mark hmark

theorem sees_eq_false (hp : p.rest = name ++ ' ' :: after) {mark : String}
    (hmark : mark ∈ openers) :
    p.sees mark = false := by
  rw [Place.sees, h.starts_eq_false hp hmark, Bool.false_and]

theorem closes_eq_false (hp : p.rest = name ++ ' ' :: after) : p.closes = false := by
  have hrest : p.rest.isEmpty = false := by simp [hp]
  have hcloser : closers.any p.sees = false := by
    rw [List.any_eq_false]
    intro mark hmark
    rw [Bool.not_eq_true]
    exact h.sees_eq_false hp (List.mem_append_right _ hmark)
  rw [Place.closes, hrest, hcloser]
  rfl

theorem isSolid (after : List Char) : Place.isSolid (name ++ after) := by
  have := (Written.text name).isSolid_chars after
  rwa [Written.chars, h.quoteChars_eq] at this

/-- No blank stands in front of a name. -/
theorem blanks_eq (hp : p.rest = name ++ ' ' :: after) : p.blanks = p :=
  Place.blanks_of_solid (hp ▸ h.isSolid _)

/-- The whole name is what an alias would have to be for. -/
theorem expandAliases_eq {m : Manner} (hm : m.aliases.lookup (String.ofList name) = none)
    (used : List String) (fuel : Nat) :
    expandAliases m used fuel (name ++ ' ' :: after) = name ++ ' ' :: after := by
  cases fuel with
  | zero => rfl
  | succ fuel =>
    have hquotes : ∀ c ∈ "\"'\\$\x60".toList, ¬isSafe c := by
      rw [← List.all_iff_forall_prop]
      decide
    have hsafe : ∀ c ∈ name, (!isMeta c && !"\"'\\$\x60".toList.contains c) = true := by
      intro c hc
      have hquote : "\"'\\$\x60".toList.contains c = false :=
        Bool.eq_false_iff.2 fun hmem => hquotes c (List.contains_iff_mem.1 hmem) (h.safe c hc)
      rw [isMeta_of_isSafe (h.safe c hc), hquote]
      rfl
    have hname : ((name ++ ' ' :: after).takeWhile
        fun c => !isMeta c && !"\"'\\$\x60".toList.contains c) = name := by
      rw [List.takeWhile_append_of_pos hsafe, List.takeWhile_cons, if_neg (by decide),
        List.append_nil]
    rw [expandAliases, hname, hm]

/-- A name assigns nothing. -/
theorem readAssignment?_eq_none (hp : p.rest = name ++ ' ' :: after) (lists : Bool) :
    (readAssignment? inner lists).run p = .ok (none, p) := by
  set left := p.skip (p.rest.takeWhile Text.isNameChar).length with hleft
  have hhead : left.rest.head?.any "=+[".toList.contains = false := by
    rw [hleft, Place.skip_rest, drop_length_takeWhile, hp,
      dropWhile_append_of_endsWord (by decide) (by decide) (by simp [EndsWord])]
    have := h.assigns_nothing
    cases htail : name.dropWhile Text.isNameChar with
    | nil => rfl
    | cons c rest => rwa [htail] at this
  have hequal : left.starts "=" = false := Place.starts_eq_false (by decide) hhead
  have hplus : left.starts "+=" = false := Place.starts_eq_false (by decide) hhead
  have hbracket : left.starts "[" = false := Place.starts_eq_false (by decide) hhead
  simp only [readAssignment?, StateT.run_bind, StateT.run_get, pure_bind, ← hleft, hequal, hplus,
    hbracket, Bool.false_eq_true, if_false, ite_self, StateT.run_pure]
  rfl

/-- After a name, no argument is an assignment. -/
theorem after_eq_plain (d : Dialect) : Phase.after d (.quoting name) = .plain := by
  have hname : (Word.quoting name).plain? = some (String.ofList name) := by
    simp [Word.quoting, Word.plain?, h.plain]
  rw [Phase.after, hname, Option.any_some, h.declares_nothing]
  rfl

end IsCommandName

/-! ### Calls -/

/-- A command with something behind its name. -/
structure Call where
  name : List Char
  parts : List Written
  isName : IsCommandName name
  parts_ne : parts ≠ []

namespace Written

def argument? : Written → Option Argument
  | .text t => some (.word (.quoting t))
  | .status => some (.word statusWord)
  | .toErrors => none

def redirect? : Written → Option Redirect
  | .toErrors => some outputToErrors
  | _ => none

end Written

/-- What is picked from the parts of a command, its name first, is picked from what they are written
from. -/
theorem filterMap_parts {α : Type} {pick : SimplePart → Option α} {w : Word} (first : Option α)
    (pickWritten : Written → Option α) (hfirst : pick (.argument (.word w)) = first)
    (h : ∀ w : Written, pick w.part = pickWritten w) (parts : List Written) :
    (.argument (.word w) :: parts.map Written.part).filterMap pick =
      first.toList ++ parts.filterMap pickWritten := by
  rw [List.filterMap_cons, List.filterMap_map, show pick ∘ Written.part = pickWritten from funext h,
    hfirst]
  cases first <;> rfl

namespace Call

variable (call : Call)

def chars : List Char := call.name ++ call.parts.flatMap fun w => ' ' :: w.chars

/-- What a command is that is written like this. -/
def Means (c : Command) : Prop :=
  ∃ line, c = .simple line [] (.word (.quoting call.name) :: call.parts.filterMap Written.argument?)
    (call.parts.filterMap Written.redirect?)

variable {call}

/-- Behind its name there is a blank and a part. -/
theorem exists_behind (call : Call) (after : List Char) :
    ∃ (w : Written) (rest : List Char),
      call.parts.flatMap (fun w => ' ' :: w.chars) ++ after = ' ' :: (w.chars ++ rest) := by
  obtain ⟨w, parts, hparts⟩ := List.exists_cons_of_ne_nil call.parts_ne
  exact ⟨w, parts.flatMap (fun w => ' ' :: w.chars) ++ after, by simp [hparts]⟩

theorem exists_rest_eq (hp : p.rest = call.chars ++ after) :
    ∃ more, p.rest = call.name ++ ' ' :: more := by
  obtain ⟨w, rest, hbehind⟩ := call.exists_behind after
  exact ⟨w.chars ++ rest, by rw [hp, chars, List.append_assoc, hbehind]⟩

/-- A command begins with a character that is neither a blank nor a line end. -/
theorem exists_chars_eq_cons (call : Call) (after : List Char) :
    ∃ c rest, call.chars ++ after = c :: rest ∧ Place.isSolid (c :: rest) ∧ c ≠ '\n' := by
  have hne : call.name ≠ [] := (isPlain_iff.1 call.isName.plain).1
  have hsolid : Place.isSolid (call.chars ++ after) := by
    rw [chars, List.append_assoc]
    exact call.isName.isSolid _
  obtain ⟨c, name, hname⟩ := List.exists_cons_of_ne_nil hne
  have hline : c ≠ '\n' := by
    rintro rfl
    exact absurd (call.isName.safe _ (hname ▸ List.mem_cons_self)) (by decide)
  have hcons : call.chars ++ after =
      c :: (name ++ (call.parts.flatMap fun w => ' ' :: w.chars) ++ after) := by
    rw [chars, hname, List.cons_append, List.cons_append]
  exact ⟨c, _, hcons, hcons ▸ hsolid, hline⟩

/-- The parts of a command are read back, its name first. -/
theorem readElements_call (hafter : EndsCommand after) (hfuel : call.parts.length + 1 < fuel)
    (hp : p.rest = call.chars ++ after) (hspans : p.spans = []) :
    ∃ found q, (readElements inner .front fuel).run p = .ok (found, q) ∧
      found.map Prod.fst = .argument (.word (.quoting call.name)) :: call.parts.map Written.part ∧
      p.MovesTo q (afterBlank after) := by
  obtain ⟨fuel, rfl⟩ : ∃ k, fuel = k + 1 := ⟨fuel - 1, by omega⟩
  have hname := call.isName
  obtain ⟨w, rest, hbehind⟩ := call.exists_behind after
  have hrest : p.rest = call.name ++ ' ' :: (w.chars ++ rest) := by
    rw [hp, chars, List.append_assoc, hbehind]
  have hends : EndsWord (' ' :: (w.chars ++ rest)) := by simp [EndsWord]
  have hword := @readWord_quoteChars inner p call.name _ hends (by rw [hname.quoteChars_eq, hrest])
    hspans
  rw [hname.quoteChars_eq] at hword
  set next := p.skip call.name.length with hnext
  have hnextRest : next.rest = ' ' :: (w.chars ++ rest) := by
    rw [hnext, Place.skip_rest, hrest, List.drop_left]
  have hbracket : next.blanks.starts "(" = false := by
    rw [Place.blanks_of_space hnextRest (w.isSolid_chars rest)]
    have hhead : (next.skip 1).rest.head?.any ['('].contains = false := by
      rw [Place.skip_rest, hnextRest]
      exact w.head?_chars rest
    exact Place.starts_eq_false (by decide) hhead
  obtain ⟨found, q, hread, hfound, hmoves⟩ := @readElements_written inner after hafter
    call.parts fuel next
    (by omega) (hnextRest.trans hbehind.symm) (by rw [hnext, Place.skip_spans, hspans])
  have hunredirected : isUnredirected p.rest := by
    have := isUnredirected_quoteChars hends call.name
    rwa [hname.quoteChars_eq, ← hrest] at this
  have hfirst := readElements_word (hname.blanks_eq hrest) hunredirected
    (.inr (hname.readAssignment?_eq_none hrest true))
      hword (Word.source_quoting_ne_nil _) (fun _ => hbracket)
    ((if_pos rfl).trans (hname.after_eq_plain _)) hread
  exact ⟨_, q, hfirst, by rw [List.map_cons, hfound], hmoves.rest_eq, hmoves.spans_eq,
    hmoves.manner_eq.trans (Place.skip_manner _ _)⟩

/-- Each part takes at least a character. -/
theorem length_parts_le (parts : List Written) :
    parts.length ≤ (parts.flatMap fun w => ' ' :: w.chars).length := by
  induction parts with
  | nil => exact le_refl _
  | cons w parts ih =>
    simp only [List.flatMap_cons, List.length_append, List.length_cons]
    omega

/-- **A command is read back as the simple command that it means.** -/
theorem readSimple_call (hafter : EndsCommand after) (hp : p.rest = call.chars ++ after)
    (hspans : p.spans = []) :
    ∃ c q, (readSimple (fuel + 1)).run p = .ok (c, q) ∧ call.Means c ∧
      p.MovesTo q (afterBlank after) := by
  have hfuel : call.parts.length + 1 < readBound p := by
    have := length_parts_le call.parts
    rw [readBound, hp, List.length_append, chars, List.length_append]
    omega
  obtain ⟨found, q, hread, hfound, hmoves⟩ :=
    @readElements_call (readList true fuel) _ _ _ call hafter hfuel hp hspans
  obtain ⟨w, parts, hparts⟩ := List.exists_cons_of_ne_nil call.parts_ne
  refine ⟨_, q, ?_, ⟨commandLine p.manner.dialect p.line q.blanks.line found, rfl⟩, hmoves⟩
  rw [readSimple]
  simp only [StateT.run_bind, StateT.run_get, pure_bind, Read.ok_bind, hread, hfound]
  -- there is something behind the name, so no function is defined
  rw [hparts, List.map_cons]
  dsimp only
  rw [← List.map_cons, ← hparts, filterMap_parts none (fun _ => none) (by rfl)
    fun w => by cases w <;> rfl,
    filterMap_parts (some _) Written.argument? (by rfl) fun w => by cases w <;> rfl,
    filterMap_parts none Written.redirect? (by rfl) fun w => by cases w <;> rfl]
  simp only [Option.toList_none, Option.toList_some, List.filterMap_none, List.singleton_append,
    List.append_nil, List.nil_append]
  rfl

/-- A command opens nothing else, if its name stands for no other text. -/
theorem readCommand_call (hafter : EndsCommand after) (hp : p.rest = call.chars ++ after)
    (hspans : p.spans = []) (halias : p.manner.aliases.lookup (String.ofList call.name) = none) :
    ∃ c q, (readCommand (fuel + 2)).run p = .ok (c, q) ∧ call.Means c ∧
      p.MovesTo q (afterBlank after) := by
  obtain ⟨c, q, hread, hmeans, hmoves⟩ := @readSimple_call fuel _ _ call hafter hp hspans
  refine ⟨c, q, ?_, hmeans, hmoves⟩
  have hname := call.isName
  obtain ⟨more, hrest⟩ := exists_rest_eq hp
  have hblanks : p.blanks = p := hname.blanks_eq hrest
  have hexpanded (fuel : Nat) :
      (modify fun p' : Place =>
        { p' with rest := expandAliases p.manner [] fuel p'.rest } : Read Unit).run p =
        .ok (⟨⟩, p) := by
    have : expandAliases p.manner [] fuel p.rest = p.rest := by
      rw [hrest]
      exact hname.expandAliases_eq halias [] fuel
    rw [StateT.run_modify, this]
    rfl
  have hstarts (mark : String) (hmark : mark ∈ openers) : ¬p.starts mark = true := by
    simp [hname.starts_eq_false hrest hmark]
  have hsees (mark : String) (hmark : mark ∈ openers) : ¬p.sees mark = true := by
    simp [hname.sees_eq_false hrest hmark]
  have hbash (mark : String) (hmark : mark ∈ openers) : ¬(p.isBash && p.sees mark) = true := by
    simp [hname.sees_eq_false hrest hmark]
  have hsum : (if (p.isBash && p.starts "((") = true then sumLength? (p.rest.drop 2) else none) =
      none := by
    simp [hname.starts_eq_false hrest (show "((" ∈ openers by decide)]
  have hloop : ¬(p.sees "while" || p.sees "until") = true := by
    simp [hname.sees_eq_false hrest (show "while" ∈ openers by decide),
      hname.sees_eq_false hrest (show "until" ∈ openers by decide)]
  rw [readCommand]
  simp only [StateT.run_bind, StateT.run_get, pure_bind, Read.ok_bind, run_blanks, hblanks]
  -- whether there are aliases or not, the name is left as it is
  by_cases haliases : (!p.manner.aliases.isEmpty) = true
  on_goal 1 =>
    rw [if_pos haliases]
    simp only [StateT.run_bind, Read.ok_bind, run_blanks, hblanks, hexpanded]
  on_goal 2 => rw [if_neg haliases]
  all_goals
    simp only [StateT.run_bind, StateT.run_get, pure_bind, hsum]
    rw [if_neg (hbash "[[" (by decide)), if_neg (hstarts "(" (by decide)),
      if_neg (hsees "\x7b" (by decide)), if_neg (hsees "if" (by decide)), if_neg hloop,
      if_neg (hsees "for" (by decide)), if_neg (hbash "select" (by decide)),
      if_neg (hsees "case" (by decide)), if_neg (hbash "function" (by decide)),
      if_neg (by simp [hname.closes_eq_false hrest]), hread]

/-- No bar follows a command that would lead its output to another one. -/
theorem readPipeline_call (hafter : EndsCommand after) (hp : p.rest = call.chars ++ after)
    (hspans : p.spans = []) (halias : p.manner.aliases.lookup (String.ofList call.name) = none) :
    ∃ c q, (readPipeline (fuel + 4)).run p = .ok (c, q) ∧ call.Means c ∧
      p.MovesTo q (afterBlank after) := by
  obtain ⟨c, q, hread, hmeans, hmoves⟩ := @readCommand_call fuel _ _ call hafter hp hspans halias
  refine ⟨c, q, ?_, hmeans, hmoves⟩
  have hname := call.isName
  obtain ⟨more, hrest⟩ := exists_rest_eq hp
  have hblanks : p.blanks = p := hname.blanks_eq hrest
  have hblanks' : q.blanks = q :=
    Place.blanks_of_solid (by rw [hmoves.rest_eq]; cases hafter <;> rfl)
  have hboth : q.starts "|&" = false := by
    rw [Place.starts, hmoves.rest_eq]
    cases hafter <;> rfl
  have hbar : (q.starts "|" && !q.starts "||") = false := by
    rw [Place.starts, Place.starts, hmoves.rest_eq]
    cases hafter <;> rfl
  have hstages : (readStages (fuel + 3)).run p = .ok ([c], q) := by
    rw [readStages]
    simp only [StateT.run_bind, StateT.run_get, pure_bind, Read.ok_bind, hread, run_blanks,
      hblanks', hboth, hbar, Bool.and_false, Bool.false_eq_true, if_false]
    rfl
  have hnegated := hname.sees_eq_false hrest (show "!" ∈ openers by decide)
  have htimed := hname.sees_eq_false hrest (show "time" ∈ openers by decide)
  rw [readPipeline]
  simp only [StateT.run_bind, StateT.run_get, pure_bind, Read.ok_bind, run_blanks, hblanks,
    hnegated, htimed, Bool.and_false, Bool.false_eq_true, if_false, hstages]
  rfl

end Call

/-! ### Lines -/

/-- A line: a command, and perhaps one that is run if it fails. -/
structure Line where
  call : Call
  orElse : Option Call := none

namespace Line

variable (line : Line)

def chars : List Char :=
  line.call.chars ++ match line.orElse with
    | none => []
    | some other => " || ".toList ++ other.chars

/-- What a line means that is written like this. -/
def Means (c : Command) : Prop :=
  match line.orElse with
  | none => line.call.Means c
  | some other => ∃ first second, c = .either first second ∧
      line.call.Means first ∧ other.Means second

/-- The names that a line begins its commands with. -/
def names : List String :=
  String.ofList line.call.name :: (line.orElse.map fun other => String.ofList other.name).toList

/-- A line ends here: at the end of the text, or in front of the next line. -/
inductive Ends : List Char → Prop
  | textEnd : Ends []
  | lineEnd (more : List Char) : Ends ('\n' :: more)

variable {line}

namespace Ends

theorem endsCommand (h : Ends after) : EndsCommand after := by
  cases h with
  | textEnd => exact .textEnd
  | lineEnd more => exact .lineEnd more

theorem afterBlank_eq (h : Ends after) : afterBlank after = after := by
  cases h <;> rfl

theorem blanks_eq (h : Ends after) (hp : p.rest = after) : p.blanks = p :=
  Place.blanks_of_solid (by rw [hp]; cases h <;> rfl)

/-- At the end of a line no mark stands but the end itself. -/
theorem starts_eq_false (h : Ends after) (hp : p.rest = after) {mark : String}
    (hmark : mark.toList.head?.any "&|;".toList.contains) : p.starts mark = false :=
  Place.starts_eq_false hmark (by rw [hp]; cases h <;> rfl)

end Ends

/-- Nothing is joined to a command at the end of its line. -/
theorem readJoined_of_ends (hafter : Ends after) (hp : p.rest = after) (c : Command) :
    (readJoined c (fuel + 1)).run p = .ok (c, p) := by
  have hboth : p.starts "&&" = false := hafter.starts_eq_false hp (by decide)
  have heither : p.starts "||" = false := hafter.starts_eq_false hp (by decide)
  rw [readJoined]
  simp only [StateT.run_bind, StateT.run_get, pure_bind, Read.ok_bind, run_blanks,
    hafter.blanks_eq hp, hboth, heither, Bool.false_eq_true, if_false]
  rfl

/-- A command is joined to the one before it, to be run if that one fails. -/
theorem readJoined_orElse {other : Call} (hafter : Ends after)
    (hp : p.rest = '|' :: '|' :: ' ' :: (other.chars ++ after)) (hspans : p.spans = [])
    (halias : p.manner.aliases.lookup (String.ofList other.name) = none) (first : Command) :
    ∃ second q, (readJoined first (fuel + 6)).run p = .ok (.either first second, q) ∧
      other.Means second ∧
      p.MovesTo q after := by
  obtain ⟨c, rest, hcons, hsolid, hline⟩ := other.exists_chars_eq_cons after
  have hblanks : p.blanks = p := Place.blanks_of_solid (by rw [hp]; rfl)
  have hlines : (p.skip 2).lines = p.skip 3 := by
    rw [Place.lines_of_space (by rw [Place.skip_rest, hp, hcons]; rfl) hsolid hline,
      Place.skip_skip]
  have hrest : (p.skip 3).rest = other.chars ++ after := by
    rw [Place.skip_rest, hp]
    rfl
  obtain ⟨second, q, hread, hmeans, hmoves⟩ := @Call.readPipeline_call (fuel + 1) _ _ other
    hafter.endsCommand hrest
    (by rw [Place.skip_spans, hspans]) (by rw [Place.skip_manner, halias])
  have hq : q.rest = after := hmoves.rest_eq.trans hafter.afterBlank_eq
  have hboth : p.starts "&&" = false := by rw [Place.starts, hp]; rfl
  have heither : p.starts "||" = true := by rw [Place.starts, hp]; rfl
  refine ⟨second, q, ?_, hmeans, hq, hmoves.spans_eq,
    hmoves.manner_eq.trans (Place.skip_manner _ _)⟩
  rw [readJoined]
  simp only [StateT.run_bind, StateT.run_get, StateT.run_set, pure_bind, Read.ok_bind, run_blanks,
    hblanks, hboth, heither, Bool.false_eq_true, if_false, if_true, hlines, hread,
    readJoined_of_ends hafter hq]

/-- **A line is read back as the command that it means**, up to its end. -/
theorem readLine_line (hafter : Ends after) (hp : p.rest = line.chars ++ after)
    (hspans : p.spans = []) (haliases : p.manner.Spares line.names) :
    ∃ c q, readLine.run p = .ok ([c], q) ∧ line.Means c ∧ p.MovesTo q after := by
  obtain ⟨fuel, hfuel⟩ : ∃ k, 2 * readBound p = k + 6 :=
    ⟨2 * readBound p - 6, by unfold readBound; omega⟩
  -- a line ends behind its last command
  suffices hjoined : ∃ first c q₁ q, (readPipeline (fuel + 6)).run p = .ok (first, q₁) ∧
      (readJoined first (fuel + 6)).run q₁ = .ok (c, q) ∧ line.Means c ∧ p.MovesTo q after by
    obtain ⟨first, c, q₁, q, hfirst, hc, hmeans, hmoves⟩ := hjoined
    have hnext : q.starts ";" = false := hafter.starts_eq_false hmoves.rest_eq (by decide)
    have hbackground : q.starts "&" = false := hafter.starts_eq_false hmoves.rest_eq (by decide)
    have hend : (q.rest.isEmpty || q.starts "\n") = true := by
      rw [Place.starts, hmoves.rest_eq]
      cases hafter <;> rfl
    refine ⟨c, q, ?_, hmeans, hmoves⟩
    simp only [readLine, StateT.run_bind, StateT.run_get, pure_bind]
    rw [readLineWithin]
    simp only [StateT.run_bind, StateT.run_get, pure_bind, hfuel, hfirst, hc, Read.ok_bind,
      run_blanks, hafter.blanks_eq hmoves.rest_eq, hnext, hbackground, Bool.false_and,
      Bool.false_eq_true, if_false, hend, if_true]
    rfl
  have hname : p.manner.aliases.lookup (String.ofList line.call.name) = none :=
    haliases _ List.mem_cons_self
  obtain ⟨call, orElse⟩ := line
  cases orElse with
  | none =>
    obtain ⟨c, q, hread, hmeans, hmoves⟩ := @Call.readPipeline_call (fuel + 2)
      _ after call hafter.endsCommand
      (by simpa [chars] using hp) hspans hname
    have hq : q.rest = after := hmoves.rest_eq.trans hafter.afterBlank_eq
    exact ⟨c, c, q, q, hread, readJoined_of_ends hafter hq c, hmeans, hq,
      hmoves.spans_eq, hmoves.manner_eq⟩
  | some other =>
    have hother : p.manner.aliases.lookup (String.ofList other.name) = none :=
      haliases _ (by simp [names])
    obtain ⟨first, q₁, hread, hfirst, hmoves⟩ := @Call.readPipeline_call (fuel + 2) _
      (' ' :: '|' :: '|' :: ' ' :: (other.chars ++ after)) call (.orElse _)
      (by simpa [chars] using hp) hspans hname
    obtain ⟨second, q, hjoined, hsecond, hmoves'⟩ := @readJoined_orElse fuel q₁ after other
      hafter hmoves.rest_eq
      hmoves.spans_eq (by rw [hmoves.manner_eq, hother]) first
    exact ⟨first, _, q₁, q, hread, hjoined, ⟨first, second, rfl, hfirst, hsecond⟩,
      hmoves'.rest_eq, hmoves'.spans_eq, hmoves'.manner_eq.trans hmoves.manner_eq⟩

end Line

/-! ### Texts -/

/-- What a text holds from a place on: a command of each kind on a line of its own, and nothing
else. Each line is read as a shell reads it, in whatever manner it reads by then, as long as none of
some names stands for another text. -/
def Place.Holds (names : List String) : Place → List (Command → Prop) → Prop
  | p, [] => p.lines.rest = []
  | p, kind :: more =>
    p.lines.rest ≠ [] ∧ ∀ m : Manner, m.Spares names → ∃ c after,
      readLine.run { p.lines with manner := m, cutOff := [] } = .ok ([c], after) ∧ kind c ∧
      after.Holds names more

/-- A text is read as a command of each kind, from whatever line on it is counted. -/
def ReadsAs (names : List String) (text : String) (kinds : List (Command → Prop)) : Prop :=
  ∀ (start : Nat) (m : Manner),
    (Place.lines { rest := text.toList, line := start, manner := m }).Holds names kinds

/-- What is true of commands of some kinds may be said of them instead. -/
theorem Place.Holds.imp {names : List String} {kinds others : List (Command → Prop)}
    (h : List.Forall₂ (fun kind other => ∀ c, kind c → other c) kinds others) {p : Place}
    (hp : p.Holds names kinds) :
    p.Holds names others := by
  induction h generalizing p with
  | nil => exact hp
  | cons himp _ ih =>
    obtain ⟨hne, hread⟩ := hp
    refine ⟨hne, fun m hm => ?_⟩
    obtain ⟨c, after, hc, hkind, hmore⟩ := hread m hm
    exact ⟨c, after, hc, himp c hkind, ih hmore⟩

theorem ReadsAs.imp {names : List String} {text : String} {kinds others : List (Command → Prop)}
    (h : List.Forall₂ (fun kind other => ∀ c, kind c → other c) kinds others)
    (htext : ReadsAs names text kinds) :
    ReadsAs names text others :=
  fun start m => Place.Holds.imp h (htext start m)

namespace Line

/-- Lines below another one. -/
def below (lines : List Line) : List Char := lines.flatMap fun line => '\n' :: line.chars

theorem ends_below (lines : List Line) : Ends (below lines) := by
  cases lines with
  | nil => exact .textEnd
  | cons line lines => exact .lineEnd _

theorem exists_chars_eq_cons (line : Line) (after : List Char) :
    ∃ c rest, line.chars ++ after = c :: rest ∧ Place.isSolid (c :: rest) ∧ c ≠ '\n' := by
  rw [chars, List.append_assoc]
  exact line.call.exists_chars_eq_cons _

variable {names : List String} {lines : List Line}

/-- A line is read in any manner that spares its names, and the lines below it after it. -/
theorem holds_cons (hrest : p.lines.rest = line.chars ++ below lines) (hspans : p.lines.spans = [])
    (hnames : line.names ⊆ names)
    (hmore : ∀ q : Place, q.rest = below lines → q.spans = [] → q.Holds names (lines.map Means)) :
    p.Holds names ((line :: lines).map Means) := by
  refine ⟨?_, fun m hm => ?_⟩
  · obtain ⟨c, rest, hcons, -, -⟩ := line.exists_chars_eq_cons (below lines)
    rw [hrest, hcons]
    exact List.cons_ne_nil c rest
  · have hspares : m.Spares line.names := fun name hname => hm name (hnames hname)
    obtain ⟨c, q, hread, hmeans, hmoves⟩ :=
      @readLine_line { p.lines with manner := m, cutOff := [] } _ line (ends_below lines)
        hrest hspans hspares
    exact ⟨c, q, hread, hmeans, hmore q hmoves.rest_eq hmoves.spans_eq⟩

/-- **Lines are read one after the other**, and nothing is read behind the last. -/
theorem holds_below (hnames : ∀ line ∈ lines, line.names ⊆ names) {p : Place}
    (hp : p.rest = below lines) (hspans : p.spans = []) : p.Holds names (lines.map Means) := by
  -- the invariant: the place is in front of the line end above the next line, and nothing was
  -- expanded on the way
  induction lines generalizing p with
  | nil =>
    show p.lines.rest = []
    rw [Place.lines_of_nil hp, hp]
    rfl
  | cons line lines ih =>
    obtain ⟨c, rest, hcons, hsolid, hline⟩ := line.exists_chars_eq_cons (below lines)
    have hp' : p.rest = '\n' :: (line.chars ++ below lines) := by
      rw [hp, below, List.flatMap_cons, List.cons_append]
      rfl
    have hlines : p.lines = p.skip 1 := Place.lines_of_newline (by rw [hp', hcons]) hsolid hline
    refine holds_cons ?_ ?_ (hnames line List.mem_cons_self) fun q =>
      ih fun l hl => hnames l (List.mem_cons_of_mem line hl)
    · rw [hlines, Place.skip_rest, hp', List.drop_succ_cons, List.drop_zero]
    · rw [hlines, Place.skip_spans, hspans]

/-- **A text that is written from lines is read as what they mean.** -/
theorem readsAs (line : Line) (lines : List Line) (hnames : ∀ l ∈ line :: lines, l.names ⊆ names)
    {text : String} (htext : text.toList = line.chars ++ below lines) :
    ReadsAs names text ((line :: lines).map Means) := by
  intro start m
  obtain ⟨c, rest, hcons, hsolid, hline⟩ := line.exists_chars_eq_cons (below lines)
  set p : Place := { rest := text.toList, line := start, manner := m } with hp
  have hlines : p.lines = p := Place.lines_of_solid (htext.trans hcons) hsolid hline
  rw [hlines]
  exact holds_cons (by rw [hlines]; exact htext) (by rw [hlines]) (hnames line List.mem_cons_self)
    fun q => holds_below fun l hl => hnames l (List.mem_cons_of_mem line hl)

end Line

end LintRun.Shell
