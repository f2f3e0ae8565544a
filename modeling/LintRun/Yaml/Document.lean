import LintRun.Yaml.Graph
import LintRun.Yaml.Scanner

/-!
# Yaml — Documents

The grammar of documents: tokens become the nodes of a graph. An alias is the node of its anchor, which need not be
complete yet.

* `Document.read`: the graph of the one document in a text and its root, or nothing if there is none.

The grammar is followed by recursion with a bound that each token raises by more than the calls it leads to. Tokens are
asked for one at a time, so that a fault counts only if it comes before all others.
-/

namespace LintRun.Yaml.Document

/-- What is left to read, the anchors and the tag handles, and the nodes so far. -/
structure State where
  scanner : Scanner
  anchors : List (String × NodeId) := []
  handles : List (String × String) := []
  graph : Graph := {}

abbrev Step := StateT State (Except Fault)

def refuse : Step α := throw .malformed

/-- The next token. -/
def peek : Step (Option Token) := do
  let s ← get
  let (t, scanner) ← s.scanner.peek
  set { s with scanner }
  pure t

/-- Passes over the next token. -/
def skip : Step Unit := modify fun s => { s with scanner := s.scanner.skip }

/-- Whether the next token is one of some marks. The end of the tokens is none. -/
def sees (marks : List Token) : Step Bool := do
  match ← peek with
  | some t => pure (marks.contains t)
  | none => pure false

/-- Takes a mark that has to stand here. -/
def expect (mark : Token) : Step Unit := do
  if ← sees [mark] then skip else refuse

/-! ### Properties of nodes -/

/-- What stands in front of a node: an anchor and a tag, in either order. -/
structure Properties where
  anchor : Option String := none
  tag : Option String := none

/-- The full name of a tag. -/
def fullTag (handle : Option String) (ending : String) : Step String := do
  match handle with
  | none => pure ending
  | some h =>
    match (← get).handles.lookup h with
    | some replacement => pure (replacement ++ ending)
    | none => refuse

def properties : Step Properties := do
  match ← peek with
  | some (.anchor a) => do
    skip
    match ← peek with
    | some (.tag h e) => do
      skip
      pure ⟨some a, some (← fullTag h e)⟩
    | _ => pure ⟨some a, none⟩
  | some (.tag h e) => do
    skip
    match ← peek with
    | some (.anchor a) => do
      skip
      pure ⟨some a, some (← fullTag h e)⟩
    | _ => pure ⟨none, some (← fullTag h e)⟩
  | _ => pure {}

/-- The tag that says nothing. -/
def isOpen (tag : Option String) : Bool := tag.isNone || tag = some "!"

def collectionTag (tag : Option String) (dflt : Tag) : Tag :=
  if isOpen tag then dflt else Tag.ofName (tag.getD "")

/-- A tag of its own wins; a plain scalar without one, or one with the open tag, goes by its look. -/
def scalarTag (tag : Option String) (plain : Bool) (text : Text.Codes) : Tag :=
  match tag with
  | some "!" => Tag.ofPlain text
  | some name => Tag.ofName name
  | none => if plain then Tag.ofPlain text else .str

/-! ### Nodes -/

/-- One more node. -/
def addNode (n : Node) : Step NodeId :=
  modifyGet fun s =>
    let (i, graph) := s.graph.add n
    (i, { s with graph })

/-- A new node, under its anchor if it has one; the anchor must be new. -/
def newNode (anchor : Option String) (n : Node) : Step NodeId := do
  match anchor with
  | none => addNode n
  | some a => do
    if ((← get).anchors.lookup a).isSome then refuse
    let i ← addNode n
    modify fun s => { s with anchors := (a, i) :: s.anchors }
    pure i

def setContent (i : NodeId) (c : Content) : Step Unit := modify fun s => { s with graph := s.graph.setContent i c }

/-- The node where nothing is written. -/
def blank : Step NodeId := newNode none ⟨.null, .scalar []⟩

/-- The node that an alias names. -/
def aliased (name : String) : Step NodeId := do
  match (← get).anchors.lookup name with
  | some i => pure i
  | none => refuse

/-- A sequence whose items some steps read. -/
def sequence (p : Properties) (items : Step (List NodeId)) : Step NodeId := do
  let i ← newNode p.anchor ⟨collectionTag p.tag .seq, .sequence []⟩
  setContent i (.sequence (← items))
  pure i

/-- A mapping whose members some steps read. -/
def mapping (p : Properties) (members : Step (List (NodeId × NodeId))) : Step NodeId := do
  let i ← newNode p.anchor ⟨collectionTag p.tag .map, .mapping []⟩
  setContent i (.mapping (← members))
  pure i

/-- A node of which only the properties are written. -/
def bare (p : Properties) : Step NodeId :=
  if p.anchor.isSome || p.tag.isSome then newNode p.anchor ⟨scalarTag p.tag true [], .scalar []⟩ else refuse

mutual

/-- A node. `block` tells that indentation counts here, `indentless` that a sequence may start with its first
entry. -/
def node (block indentless : Bool) : Nat → Step NodeId
  | 0 => refuse
  | fuel + 1 => do
    match ← peek with
    | some (.alias name) => do
      skip
      aliased name
    | _ => do
      let p ← properties
      match ← peek with
      | some (.scalar text plain) => do
        skip
        newNode p.anchor ⟨scalarTag p.tag plain text, .scalar text⟩
      | some t =>
        if t = .blockEntry && indentless then sequence p (entries true fuel)
        else if t = .flowSequenceStart then sequence p (skip *> flowItems true fuel)
        else if t = .flowMappingStart then mapping p (skip *> flowMembers true fuel)
        else if t = .blockSequenceStart && block then sequence p (skip *> entries false fuel)
        else if t = .blockMappingStart && block then mapping p (skip *> members fuel)
        else bare p
      | none => bare p

/-- A node, or nothing written where one of some marks follows. -/
def nodeUnless (block indentless : Bool) (marks : List Token) : Nat → Step NodeId
  | 0 => refuse
  | fuel + 1 => do if ← sees marks then blank else node block indentless fuel

/-- A node behind a mark; without the mark nothing is written. -/
def nodeAfter (mark : Token) (block : Bool) (marks : List Token) : Nat → Step NodeId
  | 0 => refuse
  | fuel + 1 => do
    if ← sees [mark] then do
      skip
      nodeUnless block block marks fuel
    else blank

/-- The entries of a block sequence. One without an indentation of its own ends where no entry follows. -/
def entries (indentless : Bool) : Nat → Step (List NodeId)
  | 0 => refuse
  | fuel + 1 => do
    if ← sees [.blockEntry] then do
      skip
      let marks := if indentless then [.blockEntry, .key, .value, .blockEnd] else [.blockEntry, .blockEnd]
      let item ← nodeUnless true false marks fuel
      let items ← entries indentless fuel
      pure (item :: items)
    else if indentless then pure []
    else do
      expect .blockEnd
      pure []

/-- The members of a block mapping. -/
def members : Nat → Step (List (NodeId × NodeId))
  | 0 => refuse
  | fuel + 1 => do
    let marks := [.key, .value, .blockEnd]
    if ← sees [.key] then do
      let k ← nodeAfter .key true marks fuel
      let v ← nodeAfter .value true marks fuel
      let more ← members fuel
      pure ((k, v) :: more)
    else do
      expect .blockEnd
      pure []

/-- The items of a flow sequence. A key among them makes a mapping of one member. -/
def flowItems (first : Bool) : Nat → Step (List NodeId)
  | 0 => refuse
  | fuel + 1 => do
    if !first && !(← sees [.flowSequenceEnd]) then expect .flowEntry
    if ← sees [.flowSequenceEnd] then do
      skip
      pure []
    else do
      let item ←
        if ← sees [.key] then
          mapping {} do
            let k ← nodeAfter .key false [.value, .flowEntry, .flowSequenceEnd] fuel
            let v ← nodeAfter .value false [.flowEntry, .flowSequenceEnd] fuel
            pure [(k, v)]
        else node false false fuel
      let items ← flowItems false fuel
      pure (item :: items)

/-- The members of a flow mapping. A node without a key mark is a key without a value. -/
def flowMembers (first : Bool) : Nat → Step (List (NodeId × NodeId))
  | 0 => refuse
  | fuel + 1 => do
    if !first && !(← sees [.flowMappingEnd]) then expect .flowEntry
    if ← sees [.flowMappingEnd] then do
      skip
      pure []
    else do
      let keyed ← sees [.key]
      let k ← if keyed then nodeAfter .key false [.value, .flowEntry, .flowMappingEnd] fuel else node false false fuel
      let v ← if keyed then nodeAfter .value false [.flowEntry, .flowMappingEnd] fuel else blank
      let more ← flowMembers false fuel
      pure ((k, v) :: more)

end

/-! ### Documents -/

/-- The handles that need no directive. -/
def commonHandles : List (String × String) := [("!", "!"), ("!!", commonTags)]

def isDirective : Token → Bool
  | .directive _ => true
  | _ => false

/-- The directives at the front of a document: one version at most, which has to be 1, and new handles. -/
def directives (version : Bool) (handles : List (String × String)) : Nat → Step (List (String × String))
  | 0 => refuse
  | fuel + 1 => do
    match ← peek with
    | some (.directive d) => do
      skip
      match d with
      | .version major => if version || major ≠ 1 then refuse else directives true handles fuel
      | .tagHandle h replacement =>
        if (handles.lookup h).isSome then refuse else directives version ((h, replacement) :: handles) fuel
      | .other => directives version handles fuel
    | _ => pure (handles ++ commonHandles)

/-- Whether a token ends a document in which nothing is written; so does the end of the tokens. -/
def endsContent : Option Token → Bool
  | none => true
  | some t => isDirective t || t = .documentStart || t = .documentEnd

/-- A document whose start is written. -/
def explicit (fuel : Nat) : Step NodeId := do
  let handles ← directives false [] fuel
  expect .documentStart
  modify fun s => { s with handles := handles }
  if endsContent (← peek) then blank else node true false fuel

/-- Passes over the marks that end documents. -/
def skipEnds : Nat → Step Unit
  | 0 => pure ()
  | fuel + 1 => do
    if ← sees [.documentEnd] then do
      skip
      skipEnds fuel

/-- After the document nothing may follow; the directives of a second one are still read. -/
def finish (fuel : Nat) : Step Unit := do
  skipEnds fuel
  if (← peek).isSome then do
    let _ ← directives false [] fuel
    let _ ← peek
    refuse

/-- The root of the one document that is there. -/
def root? (fuel : Nat) : Step (Option NodeId) := do
  match ← peek with
  | none => pure none
  | some t => do
    let i ←
      if isDirective t || t = .documentStart then explicit fuel
      else do
        modify fun s => { s with handles := commonHandles }
        node true false fuel
    finish fuel
    pure (some i)

/-- A bound for the recursion on the tokens of a text of some characters. -/
def bound (characters : Nat) : Nat := 24 * characters + 64

/-- The graph of the one document in a text and its root. -/
def read (text : List Char) : Except Fault (Option (Graph × NodeId)) := do
  let scanner ← Scanner.ofText text
  let (root, s) ← (root? (bound text.length)).run { scanner }
  .ok (root.map fun i => (s.graph, i))

end LintRun.Yaml.Document
