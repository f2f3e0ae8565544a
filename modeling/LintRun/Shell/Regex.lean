import LintRun.Shell.Pattern

/-!
# Shell — Regular expressions

Regular expressions as system tools read them, in their two forms. Of all matches the one that starts first counts,
of those the longest, and within it each part in turn takes as much as it can.

* `Regex.read`: the expression that a text holds, or why it is malformed.
* `Regex.reach`: where the matches that start at a place may end.
* `Regex.find?`: the first match from a place on, with its groups.
-/

namespace LintRun.Shell

/-- How a regular expression is written, and what it is compared with. -/
structure RegexStyle where
  /-- Brackets and bars have a meaning without a backslash. -/
  extended : Bool := false
  /-- The case of letters does not matter. -/
  fold : Bool := false
  /-- A backslash has a meaning between square brackets. -/
  setEscapes : Bool := false
  /-- The marks for the two ends hold at the ends of each line. -/
  lines : Bool := false
  /-- An operator with nothing to repeat stands for itself. -/
  lenient : Bool := false
  /-- A class that stands in single brackets is a fault. -/
  checked : Bool := false
  /-- A closing bracket with no opening one is a fault. -/
  paired : Bool := false
  /-- What is repeated may not be repeated again. -/
  once : Bool := false
  deriving DecidableEq, Repr

/-- A place with no character of its own. -/
inductive Anchor
  | start
  | finish
  /-- The ends of the whole text. -/
  | top
  | bottom
  | wordStart
  | wordEnd
  | boundary
  | inside
  deriving DecidableEq, Repr

inductive Regex
  | nothing
  | char (c : Char)
  | any
  | set (negated : Bool) (ranges : List (Char × Char))
  | anchor (a : Anchor)
  | both (first second : Regex)
  | either (first second : Regex)
  | repeated (r : Regex) (low : Nat) (high : Option Nat)
  | group (number : Nat) (r : Regex)
  /-- What a group has matched. -/
  | again (number : Nat)

/-- Why a regular expression is malformed. -/
inductive RegexFault
  | openBracket
  | closeBracket
  | openSquare
  | openBrace
  | badRange
  | badCount
  | badRepeat
  | trailingBackslash
  | badReference
  | badClass
  | bareClass
  | malformed
  | tooBig
  deriving DecidableEq, Repr

def RegexFault.message : RegexFault → String
  | .openBracket => "Unmatched ( or \\("
  | .closeBracket => "Unmatched ) or \\)"
  | .openSquare => "Unmatched [, [^, [:, [., or [="
  | .openBrace => "Unmatched \\\x7b"
  | .badRange => "Invalid range end"
  | .badCount => "Invalid content of \\\x7b\\\x7d"
  | .badRepeat => "Invalid preceding regular expression"
  | .trailingBackslash => "Trailing backslash"
  | .badReference => "Invalid back reference"
  | .badClass => "Invalid character class name"
  | .bareClass => "character class syntax is [[:space:]], not [:space:]"
  | .malformed => "Invalid regular expression"
  | .tooBig => "Regular expression too big"

namespace Regex

def wordRanges : List (Char × Char) := [('a', 'z'), ('A', 'Z'), ('0', '9'), ('_', '_')]
def blankRanges : List (Char × Char) := [('\t', '\r'), (' ', ' ')]

/-! ### Reading -/

/-- A class, a collating element or an equivalence class at the front of a bracket expression, and the rest. -/
def namedSet? (cs : List Char) : Except RegexFault (Option (List (Char × Char) × List Char)) :=
  match cs with
  | '[' :: ':' :: rest =>
    let name := rest.takeWhile Text.isAsciiLetter
    match rest.drop name.length with
    | ':' :: ']' :: after =>
      match Pattern.classRanges.lookup (String.ofList name) with
      | some ranges => .ok (some (ranges, after))
      | none => .error .badClass
    | _ => .ok none
  | '[' :: '=' :: c :: '=' :: ']' :: after | '[' :: '.' :: c :: '.' :: ']' :: after => .ok (some ([(c, c)], after))
  | _ => .ok none

/-- The ranges up to the closing bracket, and the rest. -/
def readSet (style : RegexStyle) (first : Bool) : Nat → List Char → Except RegexFault (List (Char × Char) × List Char)
  | 0, _ => .error .openSquare
  | _ + 1, [] => .error .openSquare
  | fuel + 1, c :: rest =>
    if c = ']' && !first then .ok ([], rest)
    else do
      match ← namedSet? (c :: rest) with
      | some (ranges, after) =>
        let (more, r) ← readSet style false fuel after
        .ok (ranges ++ more, r)
      | none =>
        let (low, rest) := match c, rest with
          | '\\', e :: after =>
            if style.setEscapes then
              ((match e with
                | 'n' => '\n'
                | 't' => '\t'
                | 'r' => '\r'
                | 'f' => '\x0c'
                | 'v' => '\x0b'
                | e => e), after)
            else (c, rest)
          | _, _ => (c, rest)
        match rest with
        | '-' :: high :: after =>
          if high = ']' then
            let (more, r) ← readSet style false fuel rest
            .ok ((low, low) :: more, r)
          else
            let (high, after) := match high, after with
              | '[', '.' :: h :: '.' :: ']' :: after => (h, after)
              | '\\', h :: after' => if style.setEscapes then (h, after') else (high, after)
              | _, _ => (high, after)
            if high < low then .error .badRange
            else
              let (more, r) ← readSet style false fuel after
              .ok ((low, high) :: more, r)
        | _ =>
          let (more, r) ← readSet style false fuel rest
          .ok ((low, low) :: more, r)

/-- A bracket expression after its opening bracket. -/
def readBracketed (style : RegexStyle) (cs : List Char) : Except RegexFault (Regex × List Char) :=
  let (negated, body) := match cs with
    | '^' :: rest => (true, rest)
    | _ => (false, cs)
  if body.isEmpty then .error .malformed
  else do
    let (ranges, rest) ← readSet style true (body.length + 1) body
    let inside := body.take (body.length - rest.length - 1)
    let bare := inside.head? = some ':' && inside.getLast? = some ':' && inside.any (· ≠ ':') && !inside.contains '['
    if style.checked && bare then .error .bareClass else .ok (.set negated ranges, rest)

/-- A number at the front of bounds. -/
inductive Amount
  | missing
  | garbled
  | given (n : Nat)

/-- A number up to a comma or to the mark that closes bounds, and what starts there. -/
def readAmount (extended : Bool) : List Char → Amount → Amount × List Char
  | [], _ => (.garbled, [])
  | ',' :: rest, n => (n, ',' :: rest)
  | c :: rest, n =>
    let closes := if extended then c = '}' else c = '\\' && rest.head? = some '}'
    if closes then (n, c :: rest)
    else readAmount extended rest <|
      match n with
      | .garbled => .garbled
      | .missing => if Text.isAsciiDigit c then .given (c.toNat - 48) else .garbled
      | .given m => if Text.isAsciiDigit c then .given (min 32768 (10 * m + (c.toNat - 48))) else .garbled

/-- The two bounds of a repetition up to the mark that closes it, and the rest. Where a fault may be forgiven, there
are no bounds at all. -/
def readBounds (extended lenient : Bool) (cs : List Char) : Except RegexFault (Option (Nat × Option Nat × List Char)) :=
  let garbled (rest : List Char) : Except RegexFault (Option (Nat × Option Nat × List Char)) :=
    if lenient then .ok none else .error (if rest.isEmpty then .openBrace else .badCount)
  let close (low : Nat) (high : Option Nat) (rest : List Char) :
      Except RegexFault (Option (Nat × Option Nat × List Char)) :=
    let after := rest.drop (if extended then 1 else 2)
    if high.any (· < low) || rest.head? = some ',' then .error .badCount
    else if 32767 < high.getD low then .error .tooBig
    else .ok (some (low, high, after))
  let second (low : Nat) (rest : List Char) : Except RegexFault (Option (Nat × Option Nat × List Char)) :=
    match rest with
    | ',' :: rest =>
      match readAmount extended rest .missing with
      | (.garbled, rest) => garbled rest
      | (.missing, rest) => close low none rest
      | (.given high, rest) => close low (some high) rest
    | rest => close low (some low) rest
  match readAmount extended cs .missing with
  | (.garbled, rest) => garbled rest
  | (.missing, rest) => if rest.head? = some ',' then second 0 rest else .error .badCount
  | (.given low, rest) => second low rest

/-- How many groups have been opened, and those that have been closed. -/
structure Brackets where
  opened : Nat := 0
  closed : List Nat := []

/-- What has been read: the expression, the rest of the text, and its groups. -/
structure Reading where
  regex : Regex
  rest : List Char
  groups : Brackets

/-- An escape outside brackets, if it stands for one character or place. -/
def escape? : Char → Option Regex
  | 'w' => some (.set false wordRanges)
  | 'W' => some (.set true wordRanges)
  | 's' => some (.set false blankRanges)
  | 'S' => some (.set true blankRanges)
  | 'b' => some (.anchor .boundary)
  | 'B' => some (.anchor .inside)
  | '<' => some (.anchor .wordStart)
  | '>' => some (.anchor .wordEnd)
  | '\x60' => some (.anchor .top)
  | '\'' => some (.anchor .bottom)
  | 'n' => some (.char '\n')
  | _ => none

/-- A repetition operator: its bounds, and the rest. -/
def operator? (style : RegexStyle) (cs : List Char) : Except RegexFault (Option (Nat × Option Nat × List Char)) :=
  match style.extended, cs with
  | _, '*' :: rest => .ok (some (0, none, rest))
  | true, '+' :: rest => .ok (some (1, none, rest))
  | true, '?' :: rest => .ok (some (0, some 1, rest))
  | true, '{' :: rest => readBounds true style.lenient rest
  | false, '\\' :: '+' :: rest => .ok (some (1, none, rest))
  | false, '\\' :: '?' :: rest => .ok (some (0, some 1, rest))
  | false, '\\' :: '{' :: rest => readBounds false false rest
  | _, _ => .ok none

/-- Repetition operators after an expression. -/
def readRepeats (style : RegexStyle) : Nat → Reading → Except RegexFault Reading
  | 0, r => .ok r
  | fuel + 1, r => do
    match ← operator? style r.rest with
    | some (low, high, rest) =>
      let again := match rest with
        | '*' :: _ => true
        | '\\' :: '{' :: _ => !style.extended
        | _ => false
      if style.once && again then .error .badRepeat
      else readRepeats style fuel { r with regex := .repeated r.regex low high, rest }
    | none => .ok r

/-- Whether an alternative or the whole expression ends here. -/
def endsHere (style : RegexStyle) (depth : Nat) (cs : List Char) : Bool :=
  match style.extended, cs with
  | _, [] => true
  | true, '|' :: _ => true
  | true, ')' :: _ => 0 < depth
  | false, '\\' :: '|' :: _ => true
  | false, '\\' :: ')' :: _ => true
  | _, _ => false

mutual

/-- Alternatives. -/
def readAlternatives (style : RegexStyle) (depth : Nat) : Nat → List Char → Brackets → Except RegexFault Reading
  | 0, _, _ => .error .badRepeat
  | fuel + 1, cs, groups => do
    let first ← readSequence style depth true fuel cs groups
    let next (rest : List Char) : Except RegexFault Reading := do
      let second ← readAlternatives style depth fuel rest first.groups
      .ok { second with regex := .either first.regex second.regex }
    match style.extended, first.rest with
    | true, '|' :: rest => next rest
    | false, '\\' :: '|' :: rest => next rest
    | _, _ => .ok first
  termination_by structural fuel => fuel

/-- Expressions one after another. -/
def readSequence (style : RegexStyle) (depth : Nat) (first : Bool) :
    Nat → List Char → Brackets → Except RegexFault Reading
  | 0, _, _ => .error .badRepeat
  | fuel + 1, cs, groups => do
    if endsHere style depth cs then .ok ⟨.nothing, cs, groups⟩
    else
      let atom ← readAtom style depth first fuel cs groups
      let isAnchor := match atom.regex with
        | .anchor .start => true
        | _ => false
      let whole ← if isAnchor && !style.extended then .ok atom else readRepeats style fuel atom
      let stillFirst := first && isAnchor && !style.extended
      let rest ← readSequence style depth stillFirst fuel whole.rest whole.groups
      .ok
        { rest with
          regex := match rest.regex with
            | .nothing => whole.regex
            | r => .both whole.regex r }
  termination_by structural fuel => fuel

/-- One expression without the operators after it. -/
def readAtom (style : RegexStyle) (depth : Nat) (first : Bool) : Nat → List Char → Brackets → Except RegexFault Reading
  | 0, _, _ => .error .badRepeat
  | fuel + 1, cs, groups =>
    let single (r : Regex) (rest : List Char) : Except RegexFault Reading := .ok ⟨r, rest, groups⟩
    let group (rest : List Char) : Except RegexFault Reading := do
      let n := groups.opened + 1
      let inner ← readAlternatives style (depth + 1) fuel rest { groups with opened := n }
      let close (rest : List Char) : Except RegexFault Reading :=
        .ok ⟨.group n inner.regex, rest, { inner.groups with closed := n :: inner.groups.closed }⟩
      match style.extended, inner.rest with
      | true, ')' :: rest => close rest
      | false, '\\' :: ')' :: rest => close rest
      | _, _ => .error .openBracket
    match cs with
    | [] => single .nothing []
    | '.' :: rest => single .any rest
    | '[' :: rest => do
      let (r, rest) ← readBracketed style rest
      single r rest
    | '^' :: rest => single (if style.extended || first then .anchor .start else .char '^') rest
    | '$' :: rest => single (if style.extended || endsHere style depth rest then .anchor .finish else .char '$') rest
    | ['\\'] => .error .trailingBackslash
    | '\\' :: c :: rest =>
      if c = '(' && !style.extended then group rest
      else if c = ')' && !style.extended then .error .closeBracket
      else if c = '{' && !style.extended then
        if first then .error .badRepeat else single (.char '{') rest
      else if Text.isAsciiDigit c && c ≠ '0' then
        let n := c.toNat - 48
        if !groups.closed.contains n then .error .badReference else single (.again n) rest
      else match escape? c with
        | some r => single r rest
        | none => single (.char c) rest
    | c :: rest =>
      if style.extended then
        if c = '(' then group rest
        else if c = ')' && style.paired then .error .closeBracket
        else if c = '*' || c = '+' || c = '?' then
          if style.lenient then single .nothing rest else .error .badRepeat
        else if c = '{' then
          if !style.lenient then .error .badRepeat
          else match readBounds true true rest with
            | .ok none => single (.char c) rest
            | _ => single .nothing cs
        else single (.char c) rest
      else single (.char c) rest
  termination_by structural fuel => fuel

end

/-- The expression of a text. -/
def read (style : RegexStyle) (text : List Char) : Except RegexFault Regex := do
  let r ← readAlternatives style 0 (4 * text.length + 8) text {}
  match r.rest with
  | [] => .ok r.regex
  | _ => .error .closeBracket

/-! ### Matching -/

/-- The parts of a text that groups have matched, the last ones first. -/
abbrev Groups := List (Nat × Nat × Nat)

/-- A place in a text, and the groups that have been matched on the way to it. -/
abbrev Spot := Nat × Groups

/-- Spots with those of another list, the further ones first; of equal ones a single one. -/
def mergeSpots : List Spot → List Spot → List Spot
  | [], bs => bs
  | as, [] => as
  | a :: as, b :: bs =>
    if b.1 < a.1 then a :: mergeSpots as (b :: bs)
    else if a.1 < b.1 then b :: mergeSpots (a :: as) bs
    else if a.2 == b.2 then a :: mergeSpots as bs
    else a :: mergeSpots as (b :: bs)

/-- Whether two characters are the same one. -/
def sameChar (fold : Bool) (c d : Char) : Bool := c = d || (fold && c.toLower = d.toLower)

/-- Whether a place without characters is here. -/
def holds (style : RegexStyle) (text : Array Char) (p : Nat) (a : Anchor) : Bool :=
  let before := p ≠ 0 && (text[p - 1]?).any Text.isNameChar
  let behind := (text[p]?).any Text.isNameChar
  match a with
  | .top => p = 0
  | .bottom => p = text.size
  | .start => p = 0 || (style.lines && text[p - 1]? = some '\n')
  | .finish => p = text.size || (style.lines && text[p]? = some '\n')
  | .wordStart => !before && behind
  | .wordEnd => before && !behind
  | .boundary => before != behind
  | .inside => before == behind

/-- The spots after one character that passes a test. -/
def step (text : Array Char) (test : Char → Bool) (spots : List Spot) : List Spot :=
  spots.filterMap fun (p, gs) =>
    match text[p]? with
    | some c => if test c then some (p + 1, gs) else none
    | none => none

/-- The spots after so many more rounds of a step, at least `low` of them. -/
def rounds (next : List Spot → List Spot) (high : Option Nat) : Nat → Nat → List Spot → List Spot
  | 0, _, spots => spots
  | fuel + 1, low, spots =>
    if high = some 0 then spots
    else
      let high := high.map (· - 1)
      if low = 0 then
        let more := mergeSpots spots (next spots)
        if more.length = spots.length then spots else rounds next high fuel 0 more
      else rounds next high fuel (low - 1) (next spots)

/-- Whether a part of the text stands at a place, too. -/
def repeatsAt (fold : Bool) (text : Array Char) (start size p : Nat) : Bool :=
  p + size ≤ text.size && (List.range size).all fun i =>
    match text[start + i]?, text[p + i]? with
    | some c, some d => sameChar fold c d
    | _, _ => false

/-- The spots that an expression leads to from some others, the furthest first. `tracked` tells whether the groups
matter. -/
def reach (style : RegexStyle) (tracked : Bool) (text : Array Char) : Regex → List Spot → List Spot
  | .nothing, spots => spots
  | .char c, spots => step text (sameChar style.fold c) spots
  | .any, spots => step text (fun _ => true) spots
  | .set negated ranges, spots => step text (fun c => Pattern.inRanges style.fold ranges c != negated) spots
  | .anchor a, spots => spots.filter fun (p, _) => holds style text p a
  | .both a b, spots => reach style tracked text b (reach style tracked text a spots)
  | .either a b, spots => mergeSpots (reach style tracked text a spots) (reach style tracked text b spots)
  | .repeated r low high, spots => rounds (reach style tracked text r) high (text.size + low + 2) low spots
  | .group n r, spots =>
    if tracked then
      spots.foldl (fun all (p, gs) =>
        let ends := (reach style tracked text r [(p, gs)]).map fun (e, inner) => (e, (n, p, e) :: inner)
        mergeSpots all ends) []
    else reach style tracked text r spots
  | .again n, spots =>
    let next := spots.filterMap fun (p, gs) =>
      match gs.lookup n with
      | some (s, e) => if repeatsAt style.fold text s (e - s) p then some (p + (e - s), gs) else none
      | none => none
    next.foldl (fun all s => mergeSpots all [s]) []

/-- Whether a group is matched again within an expression. -/
def refersBack : Regex → Bool
  | .both a b | .either a b => refersBack a || refersBack b
  | .repeated r _ _ | .group _ r => refersBack r
  | .again _ => true
  | _ => false

/-- The places where the matches of an expression from a place on end, the furthest first. -/
def ends (style : RegexStyle) (text : Array Char) (r : Regex) (p : Nat) (gs : Groups) : List Nat :=
  (reach style (refersBack r) text r [(p, gs)]).map Prod.fst

/-- Goes through the rounds of a repetition, each as far as it can, up to an end; at least `low` of them. Only the
first round may be empty for its own sake. -/
def repeatTo (ends : Nat → Groups → List Nat) (round : Nat → Nat → Groups → Option Groups) (stop : Nat)
    (first : Bool) (high : Option Nat) : Nat → Nat → Nat → Groups → Option Groups
  | 0, _, p, gs => if p = stop then some gs else none
  | fuel + 1, low, p, gs =>
    let done : Option Groups := if p = stop && low = 0 then some gs else none
    if high = some 0 then done
    else
      let further := (ends p gs).findSome? fun e =>
        if stop < e || (e = p && low = 0 && !(first && p = stop)) then none
        else do
          let gs ← round p e gs
          repeatTo ends round stop false (high.map (· - 1)) fuel (low - 1) e gs
      further <|> done

/-- The groups of a match between two places. -/
def groupsBetween (style : RegexStyle) (text : Array Char) : Regex → Nat → Nat → Groups → Option Groups
  | .both a b, p, stop, gs =>
    (ends style text a p gs).findSome? fun e =>
      if stop < e then none
      else do
        let gs ← groupsBetween style text a p e gs
        groupsBetween style text b e stop gs
  | .either a b, p, stop, gs =>
    groupsBetween style text a p stop gs <|> groupsBetween style text b p stop gs
  | .repeated r low high, p, stop, gs =>
    repeatTo (ends style text r) (fun p e gs =>
      groupsBetween style text r p e gs) stop true high (text.size + low + 2) low
      p gs
  | .group n r, p, stop, gs =>
    (groupsBetween style text r p stop gs).map fun gs => (n, p, stop) :: gs
  | r, p, stop, gs => if (ends style text r p gs).contains stop then some gs else none

/-- The longest match at a place: its two ends, and its groups. -/
def matchAt? (style : RegexStyle) (text : Array Char) (r : Regex) (p : Nat) : Option (Nat × Nat × Groups) :=
  (ends style text r p []).findSome? fun e => (groupsBetween style text r p e []).map fun gs => (p, e, gs)

/-- The first match from a place on: its two ends, and its groups. -/
def find? (style : RegexStyle) (text : Array Char) (r : Regex) (start : Nat) : Option (Nat × Nat × Groups) :=
  Pattern.atFirst? (matchAt? style text r) (text.size + 1 - start) start

/-- Whether a match stands anywhere in a text. -/
def occursIn (style : RegexStyle) (r : Regex) (cs : List Char) : Bool := (find? style cs.toArray r 0).isSome

/-- How many groups an expression has. -/
def groupCount : Regex → Nat
  | .both a b | .either a b => max (groupCount a) (groupCount b)
  | .repeated r _ _ => groupCount r
  | .group n r => max n (groupCount r)
  | _ => 0

end Regex
end LintRun.Shell
