import LintRun.Shell.Parameter
import LintRun.Shell.Pattern

/-!
# Shell — Fields

From an expanded word to the texts that a command gets.

* `Bit`: a part of an expanded word.
* `fieldsOf`: the fields that unquoted separators cut a word into.
* `fileNames`: the file names that a field stands for.
-/

namespace LintRun.Shell

/-- A part of an expanded word. -/
inductive Bit
  /-- A character; one that came from an unquoted expansion may separate fields. -/
  | glyph (g : Glyph) (separates : Bool)
  /-- The place between two arguments, and what stands there if the word is not cut. -/
  | cut (joint : String)
  /-- A quoted text that is empty: the field is there all the same. -/
  | blank
  deriving DecidableEq, Repr

def bitsOf (quoted : Bool) (text : List Char) : List Bit :=
  if text.isEmpty && quoted then [.blank] else text.map fun c => .glyph ⟨c, quoted⟩ (!quoted)

/-- What stands for a character in a word that no field is cut from. -/
def literalBits (quoted : Bool) (text : List Char) : List Bit :=
  if text.isEmpty && quoted then [.blank] else text.map fun c => .glyph ⟨c, quoted⟩ false

/-- A bit of a word that stands in for a parameter: outside quotes its unquoted characters separate fields. -/
def Bit.opened (quoted : Bool) : Bit → Bit
  | .glyph g _ => .glyph g (!quoted && !g.quoted)
  | bit => bit

/-- Texts with a cut between each two. -/
def cutBits (quoted : Bool) (joint : String) : List String → List Bit
  | [] => []
  | [a] => bitsOf quoted a.toList
  | a :: rest => bitsOf quoted a.toList ++ .cut joint :: cutBits quoted joint rest

/-- The glyphs of a word that is not cut into fields. -/
def glyphsOf (bits : List Bit) : List Glyph :=
  bits.flatMap fun
    | .glyph g _ => [g]
    | .cut joint => joint.toList.map fun c => ⟨c, true⟩
    | .blank => []

def textOf (gs : List Glyph) : String := String.ofList (gs.map Glyph.char)

/-! ### Fields -/

/-- The fields of a word. `field` is the one that is being filled, newest glyph first; `closed` tells that a blank
has just ended one, so that a separator after it ends no other. -/
def fieldsFrom (separators : List Char) (field : Option (List Glyph)) (closed : Bool) : List Bit → List (List Glyph)
  | [] => (field.map List.reverse).toList
  | bit :: rest =>
    match bit with
    | .blank => fieldsFrom separators (some (field.getD [])) false rest
    | .cut _ => (field.map List.reverse).toList ++ fieldsFrom separators none false rest
    | .glyph g separates =>
      if separates && separators.contains g.char then
        if g.char = ' ' || g.char = '\t' || g.char = '\n' then
          match field with
          | some gs => gs.reverse :: fieldsFrom separators none true rest
          | none => fieldsFrom separators none closed rest
        else match field with
          | some gs => gs.reverse :: fieldsFrom separators none false rest
          | none =>
            if closed then fieldsFrom separators none false rest
            else [] :: fieldsFrom separators none false rest
      else fieldsFrom separators (some (g :: field.getD [])) false rest

def fieldsOf (separators : List Char) (bits : List Bit) : List (List Glyph) := fieldsFrom separators none false bits

/-! ### File names -/

/-- How file names are matched. -/
structure Matching where
  extended : Bool
  /-- Names with a dot in front match, too. -/
  dots : Bool
  /-- The directory itself and the one above it may match. -/
  ups : Bool
  /-- Two asterisks stand for any number of directories. -/
  deep : Bool
  fold : Bool
  charset : Charset

def State.matching (s : State) : Matching :=
  ⟨s.has "extglob", s.has "dotglob", !s.isBash, s.has "globstar", s.has "nocaseglob", s.charset⟩

/-- The glyphs between slashes. -/
def segments (gs : List Glyph) : List (List Glyph) :=
  match gs with
  | [] => [[]]
  | g :: rest =>
    match segments rest with
    | [] => [[g]]
    | s :: more => if g.char = '/' then [] :: s :: more else (g :: s) :: more

/-- The names in a directory. -/
def namesIn (m : Matching) (t : FileTree) (path : String) : List String :=
  match t.node? (pathOf (if path = "" then "." else path)) with
  | .ok node => node.entries.map fun e => Encoding.recode m.charset e.1
  | .error _ => []

/-- Whether a path leads to an entry, which may be a link to nowhere. -/
def isThere (t : FileTree) (path : String) : Bool :=
  (t.locate .entry (pathOf path)).toOption.any fun
    | .present _ => true
    | .absent _ _ => false

def isFolder (t : FileTree) (path : String) : Bool := ((t.node? (pathOf path)).toOption).any Node.isDirectory

/-- The directories below a path, and those below them, up to a depth; each with a slash behind it. -/
def foldersBelow (m : Matching) (t : FileTree) : Nat → String → List String
  | 0, _ => []
  | depth + 1, above =>
    let names := (namesIn m t above).filter fun n => !n.startsWith "." && isFolder t (above ++ n)
    names.flatMap fun n => (above ++ n ++ "/") :: foldersBelow m t depth (above ++ n ++ "/")

/-- The paths that a pattern of several segments leads to, below the text of a path that is there. A segment that
others follow leads to directories only. -/
def matchingPaths (m : Matching) (t : FileTree) (above : String) : List (List Glyph) → List String
  | [] => [above]
  | segment :: rest =>
    let last := rest.isEmpty
    let pattern := Pattern.ofGlyphs m.extended segment
    let under (name : String) : List String :=
      let path := above ++ name
      if last then (if isThere t path then matchingPaths m t path rest else [])
      else if isFolder t path then matchingPaths m t (path ++ "/") rest
      else []
    if segment.isEmpty then (if last then [above].filter (· ≠ "") else matchingPaths m t (above ++ "/") rest)
    else if m.deep && segment = [⟨'*', false⟩, ⟨'*', false⟩] then
      let folders := above :: foldersBelow m t 20 above
      if last then
        folders.flatMap fun f =>
          (if f = "" then [] else if f = above then [f] else [(f.dropEnd 1).toString]) ++
            ((namesIn m t f).filter fun n => !n.startsWith "." && !isFolder t (f ++ n)).map (f ++ ·)
      else folders.flatMap fun f => matchingPaths m t f rest
    else if pattern.isOpen then
      let hidden := m.dots || segment.head?.any fun g => g.char = '.'
      let own := (if m.ups then [".", ".."] else []) ++ namesIn m t above
      let names := own.filter fun n => (hidden || !n.startsWith ".") && pattern.accepts m.fold n.toList
      names.flatMap under
    else under (String.ofList (pattern.filterMap fun
      | .char c => some c
      | _ => none))

/-- The file names that a field with an open pattern stands for; nothing if there is none. -/
def fileNames? (s : State) (gs : List Glyph) : Option (List String) :=
  if s.has "noglob" || !(Pattern.ofGlyphs (s.has "extglob") gs).isOpen then some [textOf gs]
  else match matchingPaths s.matching s.tree "" (segments gs) with
    | [] => none
    | names => some (names.mergeSort fun a b => Text.compareCodes a.toList b.toList != .gt)

/-- The file names that a field stands for; itself if there is none, unless the options of the shell say otherwise. -/
def fileNames (gs : List Glyph) : Act (List String) := do
  let s ← get
  match fileNames? s gs with
  | some names => pure names
  | none =>
    if s.has "failglob" then spoil ("no match: " ++ textOf gs)
    else pure (if s.has "nullglob" then [] else [textOf gs])

end LintRun.Shell
