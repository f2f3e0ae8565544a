import Mathlib
import LintRun.Shell.Place

/-!
# Proofs — Shell — Places

How a reader moves through the text of a script.

* `Place.skip_skip`: what is passed over in two steps may be passed over in one.
* `Place.isSolid`: a text begins with something that readers stop at. In front of it blanks and line
  ends are passed over, and nothing else (`Place.blanks_of_space`, `Place.lines_of_newline`).
* `Place.isPrefixOf_append_cons`, `Place.starts_eq_false`: which marks do not stand at a place.
-/

namespace LintRun.Shell

namespace Place

variable (p : Place) (n m : Nat)

@[simp] theorem skip_rest : (p.skip n).rest = p.rest.drop n := by
  simp only [skip]
  split <;> rfl

/-- What is passed over is taken. -/
@[simp] theorem skip_taken : (p.skip n).taken = p.taken + n := by
  simp only [skip]
  split <;> rfl

@[simp] theorem skip_spans : (p.skip n).spans = p.spans := by
  simp only [skip]
  split <;> rfl

@[simp] theorem skip_manner : (p.skip n).manner = p.manner := by
  simp only [skip]
  split <;> rfl

@[simp] theorem skip_zero : p.skip 0 = p := by simp [skip]

/-- What is passed over in two steps may be passed over in one. -/
@[simp] theorem skip_skip : (p.skip n).skip m = p.skip (n + m) := by
  have hcount : (p.rest.take (n + m)).count '\n' =
      (p.rest.take n).count '\n' + ((p.rest.drop n).take m).count '\n' := by
    rw [List.take_add, List.count_append]
  simp only [skip, hcount]
  by_cases hn : (p.rest.take n).count '\n' = 0 <;>
    by_cases hm : ((p.rest.drop n).take m).count '\n' = 0 <;>
    simp [hn, hm, Nat.add_assoc, Nat.add_comm, Nat.add_left_comm]

variable {p} {text after : List Char}

/-- A reader has got to a place further on: nothing before it is written in another way, and it
reads on in the same manner. -/
structure MovesTo (p q : Place) (rest : List Char) : Prop where
  rest_eq : q.rest = rest
  spans_eq : q.spans = []
  manner_eq : q.manner = p.manner

/-! ### Blanks -/

/-- Whether nothing is passed over at the front of a text: neither a blank nor a comment nor a
joined line. -/
def isSolid : List Char → Bool
  | ' ' :: _ | '\t' :: _ | '#' :: _ | '\\' :: '\n' :: _ => false
  | _ => true

/-- In front of what is solid nothing is passed over. -/
theorem skipBlanks_of_solid (h : isSolid p.rest) (fuel : Nat) : skipBlanks fuel p = p := by
  cases fuel with
  | zero => rfl
  | succ fuel =>
    unfold skipBlanks
    split <;> simp_all [isSolid]

theorem blanks_of_solid (h : isSolid p.rest) : p.blanks = p := skipBlanks_of_solid h _

/-- A single space is passed over in front of what is solid. -/
theorem blanks_of_space (hp : p.rest = ' ' :: after) (h : isSolid after) : p.blanks = p.skip 1 := by
  have hskip : isSolid (p.skip 1).rest := by simpa [hp] using h
  rw [blanks, skipBlanks]
  simp only [hp]
  exact skipBlanks_of_solid hskip _

/-- Passing over blanks writes nothing in another way, and does not change how a reader reads. -/
theorem skipBlanks_spans_manner (fuel : Nat) (p : Place) :
    (skipBlanks fuel p).spans = p.spans ∧ (skipBlanks fuel p).manner = p.manner := by
  induction fuel generalizing p with
  | zero => exact ⟨rfl, rfl⟩
  | succ fuel ih =>
    unfold skipBlanks
    split
    all_goals simp [ih]

@[simp] theorem blanks_spans (p : Place) : p.blanks.spans = p.spans :=
  (skipBlanks_spans_manner _ p).1

@[simp] theorem blanks_manner (p : Place) : p.blanks.manner = p.manner :=
  (skipBlanks_spans_manner _ p).2

/-! ### Line ends -/

/-- A line end is passed over in front of a line that begins with something solid. -/
theorem lines_of_newline {c : Char} (hp : p.rest = '\n' :: c :: after) (h : isSolid (c :: after))
    (hc : c ≠ '\n') :
    p.lines = p.skip 1 := by
  have hblanks : p.blanks = p := blanks_of_solid (by simp [hp, isSolid])
  have hskip : (p.skip 1).rest = c :: after := by simp [hp]
  have hblanks' : (p.skip 1).blanks = p.skip 1 := blanks_of_solid (by rwa [hskip])
  rw [lines, hp, List.length_cons, List.length_cons, skipLines, hblanks]
  simp only [peek, hp, List.head?_cons, if_true]
  rw [skipLines, hblanks', if_neg]
  simpa [peek, hp] using hc

/-- A reader of lines stops at what is solid, unless it ends a line. -/
theorem lines_of_solid {c : Char} (hp : p.rest = c :: after) (h : isSolid (c :: after))
    (hc : c ≠ '\n') :
    p.lines = p := by
  have hblanks : p.blanks = p := blanks_of_solid (by rwa [hp])
  rw [lines, skipLines, hblanks]
  simp [peek, hp, hc]

/-- A single space is passed over in front of something solid. -/
theorem lines_of_space {c : Char} (hp : p.rest = ' ' :: c :: after) (h : isSolid (c :: after))
    (hc : c ≠ '\n') :
    p.lines = p.skip 1 := by
  rw [lines, skipLines, blanks_of_space hp h]
  simp [peek, hp, hc]

theorem lines_of_nil (hp : p.rest = []) : p.lines = p := by
  have hblanks : p.blanks = p := blanks_of_solid (by simp [hp, isSolid])
  rw [lines, skipLines, hblanks]
  simp [peek, hp]

/-! ### Marks -/

/-- A mark without a certain character stands at the front of a text exactly if it stands before
that character. -/
theorem isPrefixOf_append_cons {c : Char} {mark : List Char} (h : c ∉ mark) :
    mark.isPrefixOf (text ++ c :: after) = mark.isPrefixOf text := by
  induction text generalizing mark with
  | nil =>
    cases mark with
    | nil => rfl
    | cons d mark =>
      have hd : (d == c) = false := by simpa using fun e : d = c => h (e ▸ List.mem_cons_self)
      simp [List.isPrefixOf, hd]
  | cons a text ih =>
    cases mark with
    | nil => rfl
    | cons d mark => simp [List.isPrefixOf, ih fun hm => h (List.mem_cons_of_mem d hm)]

/-- Where none of some characters stands, no mark stands that begins with one of them. -/
theorem starts_eq_false {mark : String} {heads : List Char}
    (hmark : mark.toList.head?.any heads.contains)
    (hrest : p.rest.head?.any heads.contains = false) :
    p.starts mark = false := by
  obtain ⟨c, chars, hchars⟩ : ∃ c chars, mark.toList = c :: chars := by
    refine List.exists_cons_of_ne_nil fun hnil => ?_
    simp [hnil] at hmark
  rw [hchars, List.head?_cons, Option.any_some] at hmark
  rw [starts, hchars]
  cases htext : p.rest with
  | nil => rfl
  | cons d text =>
    rw [htext, List.head?_cons, Option.any_some] at hrest
    have hne : (c == d) = false := beq_eq_false_iff_ne.2 fun e => by
      rw [e, hrest] at hmark; cases hmark
    rw [List.isPrefixOf, hne, Bool.false_and]

end Place

/-! ### Steps -/

/-- A step is taken from the place that the one before it leaves. -/
@[simp] theorem Read.ok_bind {α β : Type} (found : α × Place)
    (f : α × Place → Except SyntaxFault (β × Place)) :
    (.ok found >>= f) = f found := rfl

@[simp] theorem run_skip (n : Nat) (p : Place) : (skip n).run p = .ok (⟨⟩, p.skip n) := rfl

@[simp] theorem run_blanks (p : Place) : blanks.run p = .ok (⟨⟩, p.blanks) := rfl

end LintRun.Shell
