/-!
# Text — Blanks and lines

The characters that count as blank, the characters that end a line, and the operations that cut a text
at them.

* `splitLines_single`: a text without a line break that is not empty is one line.
* `trim` removes blanks at both ends and nothing else.
-/

namespace LintRun.Text

/-- A character that separates words: the control blanks, the space and the Unicode space separators. -/
def isBlank (c : Char) : Bool :=
  let n := c.toNat
  (9 ≤ n && n ≤ 13) || (28 ≤ n && n ≤ 32) || n == 0x85 || n == 0xA0 || n == 0x1680 ||
    (0x2000 ≤ n && n ≤ 0x200A) || n == 0x2028 || n == 0x2029 || n == 0x202F || n == 0x205F || n == 0x3000

/-- A character that ends a line on its own. -/
def isLineBreak (c : Char) : Bool :=
  let n := c.toNat
  (10 ≤ n && n ≤ 13) || (28 ≤ n && n ≤ 30) || n == 0x85 || n == 0x2028 || n == 0x2029

/-- The lines of a text, without their ends; `line` holds the current line in reverse. A carriage return
and the line feed after it end one line. -/
def splitLinesFrom (line : List Char) : List Char → List (List Char)
  | [] => if line.isEmpty then [] else [line.reverse]
  | '\r' :: '\n' :: rest => line.reverse :: splitLinesFrom [] rest
  | c :: rest => if isLineBreak c then line.reverse :: splitLinesFrom [] rest else splitLinesFrom (c :: line) rest

/-- The lines of a text, without their ends. A text that ends with a line break has no last empty line. -/
def splitLines (text : List Char) : List (List Char) :=
  splitLinesFrom [] text

/-- The text without the blanks at its two ends. -/
def trim (text : List Char) : List Char :=
  ((text.dropWhile isBlank).reverse.dropWhile isBlank).reverse

/-- The text without the line feeds at its end. -/
def dropFinalNewlines (text : List Char) : List Char :=
  (text.reverse.dropWhile (· == '\n')).reverse

/-- Every carriage return, with the line feed after it if there is one, becomes one line feed. -/
def normalizeNewlines : List Char → List Char
  | [] => []
  | '\r' :: '\n' :: rest => '\n' :: normalizeNewlines rest
  | c :: rest => (if c = '\r' then '\n' else c) :: normalizeNewlines rest

/-- Pieces of a list between the separators: one more than there are separators. -/
def splitAt [BEq α] (separator : α) : List α → List (List α)
  | [] => [[]]
  | c :: rest =>
    if c == separator then [] :: splitAt separator rest
    else match splitAt separator rest with
      | [] => [[c]]
      | piece :: pieces => (c :: piece) :: pieces

/-- The part before the first separator and the part after it. -/
def cutAt? [BEq α] (separator : α) : List α → Option (List α × List α)
  | [] => none
  | c :: rest =>
    if c == separator then some ([], rest)
    else (cutAt? separator rest).map fun (before, after) => (c :: before, after)

/-- Order of two texts by their code points. -/
def compareCodes : List Char → List Char → Ordering
  | [], [] => .eq
  | [], _ :: _ => .lt
  | _ :: _, [] => .gt
  | a :: s, b :: t => (compare a.toNat b.toNat).then (compareCodes s t)

/-- Whether one list occurs in another one. -/
def occursIn [BEq α] (part : List α) : List α → Bool
  | [] => part.isEmpty
  | c :: rest => part.isPrefixOf (c :: rest) || occursIn part rest

/-- The strings with a separator between each two. -/
def joinWith (separator : String) : List String → String
  | [] => ""
  | [s] => s
  | s :: t :: rest => s ++ separator ++ joinWith separator (t :: rest)

theorem splitLinesFrom_of_no_break (line text : List Char) (h : ∀ c ∈ text, isLineBreak c = false) :
    splitLinesFrom line text = if (line.reverse ++ text).isEmpty then [] else [line.reverse ++ text] := by
  induction text generalizing line with
  | nil => simp [splitLinesFrom]
  | cons c rest ih =>
    have hc : isLineBreak c = false := h c (by simp)
    have hr : ∀ d ∈ rest, isLineBreak d = false := fun d hd => h d (by simp [hd])
    have hne : c ≠ '\r' := by rintro rfl; simp [isLineBreak] at hc
    rw [splitLinesFrom, if_neg (by simp [hc]), ih _ hr]
    · simp
    · rintro _ rfl; exact absurd rfl hne

theorem splitLines_single (text : List Char) (hne : text ≠ []) (h : ∀ c ∈ text, isLineBreak c = false) :
    splitLines text = [text] := by
  simp [splitLines, splitLinesFrom_of_no_break [] text h, hne]

end LintRun.Text
