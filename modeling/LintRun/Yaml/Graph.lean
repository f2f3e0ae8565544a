import LintRun.Yaml.Tag

/-!
# Yaml — Graphs

The nodes of a document by number: scalars, sequences and mappings with their tags. A node may occur in several
places, also inside itself.

* `Graph.flatten`: a mapping with the entries that its merge keys bring in.
-/

namespace LintRun.Yaml

/-- A node, by its number. -/
abbrev NodeId := Nat

inductive Content
  | scalar (text : Text.Codes)
  | sequence (items : List NodeId)
  | mapping (entries : List (NodeId × NodeId))
  deriving DecidableEq, Repr

structure Node where
  tag : Tag
  content : Content
  deriving DecidableEq, Repr

structure Graph where
  nodes : Array Node := #[]

namespace Graph

def node? (g : Graph) (i : NodeId) : Option Node := g.nodes[i]?

def tag (g : Graph) (i : NodeId) : Tag := ((g.node? i).map Node.tag).getD .unknown

def content (g : Graph) (i : NodeId) : Content := ((g.node? i).map Node.content).getD (.scalar [])

/-- The entries of a mapping. -/
def entries (g : Graph) (i : NodeId) : List (NodeId × NodeId) :=
  match g.content i with
  | .mapping es => es
  | _ => []

/-- One more node, and its number. -/
def add (g : Graph) (n : Node) : NodeId × Graph := (g.nodes.size, { g with nodes := g.nodes.push n })

def modify (g : Graph) (i : NodeId) (f : Node → Node) : Graph := { g with nodes := g.nodes.modify i f }

def setContent (g : Graph) (i : NodeId) (c : Content) : Graph := g.modify i fun n => { n with content := c }

def setTag (g : Graph) (i : NodeId) (t : Tag) : Graph := g.modify i fun n => { n with tag := t }

/-! ### Merging -/

/-- The number of merge keys that are left. -/
def mergeCount (g : Graph) : Nat :=
  (g.nodes.toList.map fun n =>
    match n.content with
    | .mapping es => es.countP fun (k, _) => g.tag k = .merge
    | _ => 0).foldl (· + ·) 0

/-- The graph in which the default keys among some entries stand for their own text. -/
def nameDefaults (g : Graph) (entries : List (NodeId × NodeId)) : Graph :=
  entries.foldl (fun g (k, _) => if g.tag k = .default then g.setTag k .str else g) g

/-- Takes the merge keys of a mapping off, from a position on, and puts the entries that they bring in, with those in
`merged`, before its own. Each round takes off one merge key of the graph. -/
def flattenFrom : Nat → NodeId → Nat → List (NodeId × NodeId) → Graph → Except Fault Graph
  | 0, _, _, _, _ => .error .malformed
  | fuel + 1, i, position, merged, g =>
    let ahead := (g.entries i).drop position
    let own := ahead.takeWhile fun (k, _) => g.tag k ≠ .merge
    let g := g.nameDefaults own
    match ahead.drop own.length with
    | [] => .ok (if merged.isEmpty then g else g.setContent i (.mapping (merged ++ g.entries i)))
    | (_, source) :: _ => do
      let position := position + own.length
      let g := g.setContent i (.mapping ((g.entries i).eraseIdx position))
      match g.content source with
      | .mapping _ => do
        let g ← flattenFrom fuel source 0 [] g
        flattenFrom fuel i position (merged ++ g.entries source) g
      | .sequence items => do
        let (brought, g) ← items.foldlM
          (fun ((brought, g) : List (NodeId × NodeId) × Graph) item =>
            match g.content item with
            | .mapping _ => do
              let g ← flattenFrom fuel item 0 [] g
              .ok (g.entries item ++ brought, g)
            | _ => .error .malformed)
          ([], g)
        flattenFrom fuel i position (merged ++ brought) g
      | .scalar _ => .error .malformed

/-- A mapping with the entries that its merge keys bring in; of a sequence of mappings the first one comes last. -/
def flatten (g : Graph) (i : NodeId) : Except Fault Graph := flattenFrom (g.mergeCount + 1) i 0 [] g

end Graph
end LintRun.Yaml
