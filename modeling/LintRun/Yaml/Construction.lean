import LintRun.Yaml.Conversion
import LintRun.Yaml.Graph

/-!
# Yaml — Construction

The values of the nodes of a graph. Scalars get theirs at once; sequences and mappings are begun at once and filled
in rounds, all of one round before those that they begin. So of several faults the one nearest to the root counts,
the first of its round.

* `Construction.run`: the parts of which the value of a node consists.
* `Construction.assemble`: the value, in which a node inside itself is a reference.
-/

namespace LintRun.Yaml

/-- What the value of a node consists of. -/
inductive Piece
  | scalar (v : Value)
  | list (items : List NodeId)
  | pairs (items : List (NodeId × NodeId))
  | set (keys : List Value)
  | map (entries : List (Value × NodeId))

namespace Construction

/-- The graph, the pieces so far, and the nodes of the next round, the last one first. -/
structure State where
  graph : Graph
  pieces : Array (Option Piece)
  waiting : List NodeId := []

abbrev Step := StateT State (Except Fault)

def refuse : Step α := throw .malformed

def piece? (i : NodeId) : Step (Option Piece) := do pure ((← get).pieces[i]?.join)

def setPiece (i : NodeId) (p : Piece) : Step Unit :=
  modify fun s => { s with pieces := s.pieces.setIfInBounds i (some p) }

/-- The text of a node that stands in the place of a scalar: its own, or for a mapping that of its default member. -/
def textOf? (g : Graph) : Nat → NodeId → Option Text.Codes
  | 0, _ => none
  | fuel + 1, i =>
    match g.content i with
    | .scalar text => some text
    | .mapping entries => (entries.find? fun (k, _) => g.tag k = .default).bind fun (_, v) => textOf? g fuel v
    | .sequence _ => none

/-- What a sequence or a mapping is before it is filled. -/
def emptyPiece? : Tag → Option Piece
  | .seq => some (.list [])
  | .omap | .pairs => some (.pairs [])
  | .set => some (.set [])
  | .map => some (.map [])
  | _ => none

/-- Gives a node its value, or begins one. -/
def enter (i : NodeId) : Step Unit := do
  if (← piece? i).isSome then return
  let g := (← get).graph
  if isScalarTag (g.tag i) then
    match textOf? g (g.nodes.size + 1) i with
    | some text => setPiece i (.scalar (← scalarOf i (g.tag i) text))
    | none => refuse
  else
    match emptyPiece? (g.tag i) with
    | some p => do
      setPiece i p
      modify fun s => { s with waiting := i :: s.waiting }
    | none => refuse

/-- The value of a key, which has to be a scalar. -/
def key (i : NodeId) : Step Value := do
  enter i
  match ← piece? i with
  | some (.scalar v) => pure v
  | _ => refuse

/-- The entries of a mapping, with those that are merged in. -/
def membersOf (i : NodeId) : Step (List (Value × NodeId)) := do
  let s ← get
  match s.graph.content i with
  | .mapping _ => do
    let graph ← s.graph.flatten i
    set { s with graph }
    let members ← (graph.entries i).mapM fun (k, v) => do
      let k ← key k
      enter v
      pure (k, v)
    pure (Value.entriesOf members)
  | _ => refuse

/-- The member of a mapping of one member. -/
def pairOf (i : NodeId) : Step (NodeId × NodeId) := do
  match (← get).graph.content i with
  | .mapping [(k, v)] => do
    enter k
    enter v
    pure (k, v)
  | _ => refuse

/-- Fills what was begun. -/
def fill (i : NodeId) : Step Unit := do
  let g := (← get).graph
  match g.tag i, g.content i with
  | .seq, .sequence items => do
    items.forM enter
    setPiece i (.list items)
  | .omap, .sequence items | .pairs, .sequence items => do setPiece i (.pairs (← items.mapM pairOf))
  | .map, _ => do setPiece i (.map (← membersOf i))
  | .set, _ => do setPiece i (.set ((← membersOf i).map Prod.fst))
  | _, _ => refuse

/-- Fills what is waiting, and what that begins, round by round. -/
def rounds : Nat → Step Unit
  | 0 => pure ()
  | fuel + 1 => do
    let s ← get
    if s.waiting.isEmpty then pure ()
    else do
      set { s with waiting := [] }
      s.waiting.reverse.forM fill
      rounds fuel

/-- The pieces of the value of a node. Each node is begun once. -/
def run (g : Graph) (root : NodeId) : Except Fault (Array (Option Piece)) := do
  let steps : Step Unit := do
    enter root
    rounds (g.nodes.size + 1)
  let (_, s) ← steps.run { graph := g, pieces := Array.replicate g.nodes.size none }
  .ok s.pieces

/-! ### Values -/

/-- A value, and the labels that occur in it without their own value around them. -/
structure Part where
  value : Value
  free : List Nat := []

/-- The values of nodes in which no label is free. -/
abbrev Known := Array (Option Value)

/-- Parts in a row, and the labels that are free in them. -/
def parts (read : NodeId → StateM Known Part) : List NodeId → StateM Known (List Value × List Nat)
  | [] => pure ([], [])
  | i :: rest => do
    let p ← read i
    let (values, free) ← parts read rest
    pure (p.value :: values, p.free ++ free.filter fun l => !p.free.contains l)

/-- The value of a node inside the nodes of `outer`. One that occurs inside itself has a label. -/
def part (pieces : Array (Option Piece)) : Nat → List NodeId → NodeId → StateM Known Part
  | 0, _, _ => pure { value := .null }
  | fuel + 1, outer, i => do
    if let some v := (← get)[i]?.join then return { value := v }
    if outer.contains i then return { value := .reference i, free := [i] }
    let inner := part pieces fuel (i :: outer)
    let (value, free) ←
      match pieces[i]?.join with
      | none => pure (Value.null, [])
      | some (.scalar v) => pure (v, [])
      | some (.set keys) => pure (.set keys, [])
      | some (.list items) => do
        let (values, free) ← parts inner items
        pure (.list values, free)
      | some (.pairs items) => do
        let (keys, free) ← parts inner (items.map Prod.fst)
        let (values, more) ← parts inner (items.map Prod.snd)
        pure (.list (keys.zipWith (fun k v => .tuple [k, v]) values), free ++ more)
      | some (.map entries) => do
        let (values, free) ← parts inner (entries.map Prod.snd)
        pure (.map ((entries.map Prod.fst).zip values), free)
    let value := if free.contains i then .labelled i value else value
    let free := free.filter (· ≠ i)
    if free.isEmpty then modify fun known => known.setIfInBounds i (some value)
    pure { value, free }

/-- The value of a node from the pieces of a graph. -/
def assemble (pieces : Array (Option Piece)) (root : NodeId) : Value :=
  ((part pieces (pieces.size + 1) [] root).run (Array.replicate pieces.size none)).1.value

end Construction
end LintRun.Yaml
