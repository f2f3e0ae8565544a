import LintRun.Text.Digit

/-!
# Shell — Patterns

Patterns as shells match words and file names with them.

* `Pattern.ofGlyphs`: the pattern that a word stands for; what was quoted stands for itself.
* `Pattern.reach`: the places of a text that a pattern leads to from some others.
* `Pattern.accepts`: whether a text matches as a whole.
* `Pattern.cutFront`, `Pattern.cutBack`: a text without the part at one end that matches.
-/

namespace LintRun.Shell

/-- A character of a word, and whether it was quoted. -/
structure Glyph where
  char : Char
  quoted : Bool
  deriving DecidableEq, Repr

/-- How often one of the alternatives in brackets stands in a text. -/
inductive Occurrence
  | once
  | optional
  | any
  | several
  /-- None of them may. -/
  | never
  deriving DecidableEq, Repr

/-- What a part of a pattern accepts. -/
inductive PatternPart
  | char (c : Char)
  | any
  | many
  | range (negated : Bool) (ranges : List (Char × Char))
  | group (occurrence : Occurrence) (options : List (List PatternPart))

abbrev Pattern := List PatternPart

/-- Ascending numbers with those of another such list, each once. -/
def mergePlaces : List Nat → List Nat → List Nat
  | [], bs => bs
  | as, [] => as
  | a :: as, b :: bs =>
    if a < b then a :: mergePlaces as (b :: bs)
    else if b < a then b :: mergePlaces (a :: as) bs
    else a :: mergePlaces as bs

namespace Pattern

/-- The named classes of characters. -/
def classRanges : List (String × List (Char × Char)) :=
  [("digit", [('0', '9')]), ("lower", [('a', 'z')]), ("upper", [('A', 'Z')]), ("alpha", [('a', 'z'), ('A', 'Z')]),
    ("alnum", [('a', 'z'), ('A', 'Z'), ('0', '9')]), ("word", [('a', 'z'), ('A', 'Z'), ('0', '9'), ('_', '_')]),
    ("space", [('\t', '\r'), (' ', ' ')]), ("blank", [('\t', '\t'), (' ', ' ')]),
    ("cntrl", [('\x00', '\x1f'), ('\x7f', '\x7f')]), ("print", [(' ', '~')]), ("graph", [('!', '~')]),
    ("xdigit", [('a', 'f'), ('A', 'F'), ('0', '9')]), ("punct", [('!', '/'), (':', '@'), ('[', '\x60'), ('\x7b', '~')])]

/-- A class in brackets and colons at the front: its ranges, and the number of glyphs it takes. -/
def class? (gs : List Glyph) : Option (List (Char × Char) × Nat) :=
  (classRanges.find? fun (name, _) => ("[:" ++ name ++ ":]").toList.isPrefixOf (gs.map Glyph.char)).map
    fun (name, ranges) => (ranges, name.length + 4)

/-- The ranges up to the closing bracket, and the glyphs after it. A bracket that comes first stands for itself. -/
def ranges? (first : Bool) : Nat → List Glyph → Option (List (Char × Char) × List Glyph)
  | 0, _ => none
  | _ + 1, [] => none
  | fuel + 1, g :: rest =>
    if g = ⟨']', false⟩ && !first then some ([], rest)
    else match class? (g :: rest) with
      | some (ranges, n) => (ranges? false fuel ((g :: rest).drop n)).map fun (more, r) => (ranges ++ more, r)
      | none =>
        match g, rest with
        | ⟨'\\', false⟩, next :: after =>
          (ranges? false fuel after).map fun (more, r) => ((next.char, next.char) :: more, r)
        | _, ⟨'-', false⟩ :: last :: after =>
          if last = ⟨']', false⟩ then (ranges? false fuel rest).map fun (more, r) => ((g.char, g.char) :: more, r)
          else (ranges? false fuel after).map fun (more, r) => ((g.char, last.char) :: more, r)
        | _, _ => (ranges? false fuel rest).map fun (more, r) => ((g.char, g.char) :: more, r)

/-- The bracket expression after an opening bracket. -/
def bracket? (gs : List Glyph) : Option (PatternPart × List Glyph) :=
  let (negated, body) := match gs with
    | ⟨'!', false⟩ :: rest | ⟨'^', false⟩ :: rest => (true, rest)
    | _ => (false, gs)
  (ranges? true (body.length + 1) body).map fun (ranges, rest) => (.range negated ranges, rest)

/-- The alternatives up to the bracket that closes them, and the glyphs after it. -/
def options? (depth : Nat) (current : List Glyph) : List Glyph → Option (List (List Glyph) × List Glyph)
  | [] => none
  | g :: rest =>
    if g.quoted then options? depth (g :: current) rest
    else if g.char = ')' then
      if depth = 0 then some ([current.reverse], rest) else options? (depth - 1) (g :: current) rest
    else if g.char = '|' && depth = 0 then
      (options? 0 [] rest).map fun (more, r) => (current.reverse :: more, r)
    else options? (if g.char = '(' then depth + 1 else depth) (g :: current) rest

def occurrence? : Char → Option Occurrence
  | '@' => some .once
  | '?' => some .optional
  | '*' => some .any
  | '+' => some .several
  | '!' => some .never
  | _ => none

/-- The alternatives that stand here, and the glyphs after them. -/
def group? (gs : List Glyph) : Option (Occurrence × List (List Glyph) × List Glyph) :=
  match gs with
  | g :: ⟨'(', false⟩ :: rest =>
    match occurrence? g.char, options? 0 [] rest with
    | some o, some (options, after) => some (o, options, after)
    | _, _ => none
  | _ => none

/-- The pattern of a word, of at most so many parts; `extended` tells whether alternatives in brackets have a
meaning. -/
def ofGlyphsWithin (extended : Bool) : Nat → List Glyph → Pattern
  | 0, _ => []
  | _ + 1, [] => []
  | fuel + 1, g :: rest =>
    if g.quoted then .char g.char :: ofGlyphsWithin extended fuel rest
    else match (if extended then group? (g :: rest) else none) with
      | some (o, options, after) =>
        .group o (options.map (ofGlyphsWithin extended fuel)) :: ofGlyphsWithin extended fuel after
      | none =>
        match g.char with
        | '*' => .many :: ofGlyphsWithin extended fuel rest
        | '?' => .any :: ofGlyphsWithin extended fuel rest
        | '[' =>
          match bracket? rest with
          | some (part, rest) => part :: ofGlyphsWithin extended fuel rest
          | none => .char '[' :: ofGlyphsWithin extended fuel rest
        | '\\' =>
          match rest with
          | next :: rest => .char next.char :: ofGlyphsWithin extended fuel rest
          | [] => [.char '\\']
        | c => .char c :: ofGlyphsWithin extended fuel rest

def ofGlyphs (extended : Bool) (gs : List Glyph) : Pattern := ofGlyphsWithin extended (gs.length + 1) gs

/-- Whether a character is in some ranges; `fold` tells that its case does not matter. -/
def inRanges (fold : Bool) (ranges : List (Char × Char)) (c : Char) : Bool :=
  let isIn (c : Char) : Bool := ranges.any fun (low, high) => low ≤ c && c ≤ high
  isIn c || (fold && (isIn c.toLower || isIn c.toUpper))

/-- The places after one character that passes a test. -/
def after (text : Array Char) (test : Char → Bool) (places : List Nat) : List Nat :=
  places.filterMap fun p =>
    match text[p]? with
    | some c => if test c then some (p + 1) else none
    | none => none

/-- The places that a step leads to, once or several times; each round adds at least one. -/
def closure (step : List Nat → List Nat) : Nat → List Nat → List Nat
  | 0, places => places
  | fuel + 1, places =>
    let more := mergePlaces places (step places)
    if more.length = places.length then places else closure step fuel more

mutual

/-- The places of a text that a part leads to from some others, in ascending order. -/
def reachPart (fold : Bool) (text : Array Char) : PatternPart → List Nat → List Nat
  | .char c, places => after text (fun d => c = d || (fold && c.toLower = d.toLower)) places
  | .any, places => after text (fun _ => true) places
  | .many, places =>
    match places with
    | [] => []
    | p :: _ => (List.range (text.size + 1 - p)).map (· + p)
  | .range negated ranges, places => after text (fun c => inRanges fold ranges c != negated) places
  | .group o options, places =>
    let step (places : List Nat) : List Nat := reachAny fold text options places
    match o with
    | .once => step places
    | .optional => mergePlaces places (step places)
    | .any => closure step text.size places
    | .several => closure step text.size (step places)
    | .never =>
      places.foldl (fun all p =>
        let matched := step [p]
        mergePlaces all (((List.range (text.size + 1 - p)).map (· + p)).filter fun q => !matched.contains q)) []

/-- The places that parts lead to one after another. -/
def reach (fold : Bool) (text : Array Char) : List PatternPart → List Nat → List Nat
  | [], places => places
  | part :: rest, places => reach fold text rest (reachPart fold text part places)

/-- The places that one of several patterns leads to. -/
def reachAny (fold : Bool) (text : Array Char) : List (List PatternPart) → List Nat → List Nat
  | [], _ => []
  | p :: rest, places => mergePlaces (reach fold text p places) (reachAny fold text rest places)

end

/-- Whether the text matches as a whole. -/
def accepts (fold : Bool) (p : Pattern) (cs : List Char) : Bool :=
  let text := cs.toArray
  (reach fold text p [0]).getLast? = some text.size

/-- Whether some part does not stand for one fixed character. -/
def isOpen (p : Pattern) : Bool := p.any fun
  | .char _ => false
  | _ => true

/-- The text without the part at its front that matches: the shortest or the longest one. -/
def cutFront (longest : Bool) (p : Pattern) (cs : List Char) : List Char :=
  let places := reach false cs.toArray p [0]
  match if longest then places.getLast? else places.head? with
  | some n => cs.drop n
  | none => cs

/-- The text without the part at its end that matches. -/
def cutBack (longest : Bool) (p : Pattern) (cs : List Char) : List Char :=
  let text := cs.toArray
  let starts := List.range (text.size + 1)
  match (if longest then starts else starts.reverse).find? fun n =>
      (reach false text p [n]).getLast? = some text.size with
  | some n => cs.take n
  | none => cs

/-- What is found at the first of so many places, from a place on, where anything is. -/
def atFirst? {α : Type} (found? : Nat → Option α) : Nat → Nat → Option α
  | 0, _ => none
  | places + 1, p =>
    match found? p with
    | some x => some x
    | none => atFirst? found? places (p + 1)

/-- The first part of a text from a place on that matches, the longest one there. -/
def find? (fold : Bool) (text : Array Char) (p : Pattern) (start : Nat) : Option (Nat × Nat) :=
  atFirst? (fun place => ((reach fold text p [place]).getLast?).map fun e => (place, e)) (text.size + 1 - start) start

end Pattern
end LintRun.Shell
