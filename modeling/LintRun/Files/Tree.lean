import LintRun.Failure.Fault

/-!
# Files — Trees

A tree of directories, files and symbolic links, and paths looked up in it.

* `FileTree.locate`: follows a path part by part, through links; at most forty links are followed.
* `isFile`, `isDirectory`, `isThere`: what a path leads to; a path that leads nowhere is none of these.
* `read`, `write`, `makeDirectories`, `addLink`: reading and changing a tree.
-/

namespace LintRun

inductive Node
  | file (content : List UInt8) (executable : Bool)
  | link (target : String)
  | directory (entries : List (String × Node))

namespace Node

def entries : Node → List (String × Node)
  | .directory es => es
  | _ => []

def entry? (n : Node) (name : String) : Option Node := n.entries.lookup name

def isFile : Node → Bool
  | .file _ _ => true
  | _ => false

def isDirectory : Node → Bool
  | .directory _ => true
  | _ => false

/-- The entries with one of them put in; an entry of that name keeps its place. -/
def putEntry (name : String) (node : Node) : List (String × Node) → List (String × Node)
  | [] => [(name, node)]
  | (n, old) :: rest => if n = name then (n, node) :: rest else (n, old) :: putEntry name node rest

/-- The tree with the node at the given names replaced. -/
def putAt (node : Node) : List String → Node → Node
  | [], _ => node
  | name :: names, tree =>
    match tree.entry? name with
    | some child => .directory (putEntry name (putAt node names child) tree.entries)
    | none => .directory (putEntry name node tree.entries)

/-- The tree without the node at the given names. -/
def removeAt : List String → Node → Node
  | [], tree => tree
  | [name], tree => .directory (tree.entries.filter fun e => e.1 ≠ name)
  | name :: names, tree =>
    match tree.entry? name with
    | some child => .directory (putEntry name (removeAt names child) tree.entries)
    | none => tree

end Node

/-- The way from the root to a node: the node itself first, each with its name in the directory behind it. -/
abbrev Trail := List (String × Node)

/-- A tree and the working directory in it, as the names that lead there from the root. -/
structure FileTree where
  root : Node
  home : List String

namespace FileTree

/-- How many links one look-up follows. -/
def linkLimit : Nat := 40

/-- The size of a name, and of a whole path, from which it is too long, in bytes. -/
def nameLimit : Nat := 256
def pathLimit : Nat := 4096

/-- Where a path leads: to a node, or to a free name in a directory. -/
inductive Place
  | present (trail : Trail)
  | absent (directory : Trail) (name : String)

/-- What a path is looked up for: the entry that it names, what that entry leads to, or a file to be written. -/
inductive Aim
  | entry
  | target
  | file
  deriving DecidableEq

/-- The directory above; the root is above itself. -/
def up : Trail → Trail
  | _ :: above :: rest => above :: rest
  | trail => trail

/-- The root of a trail. -/
def top (trail : Trail) : Trail := trail.drop (trail.length - 1)

/-- Follows names from the head of a trail. Empty names and single dots stay where they are, which has to be a
directory; `links` more links may be followed, and the last name not for the entry itself. No file is written under a
name with a slash behind it. -/
def walk (aim : Aim) (links : Nat) (trail : Trail) : List String → Except Refusal Place
  | [] => .ok (.present trail)
  | name :: rest =>
    match trail with
    | (_, .directory es) :: _ =>
      if name = "" || name = "." then walk aim links trail rest
      else if name = ".." then walk aim links (up trail) rest
      else if aim = .file && !rest.isEmpty && rest.all (· = "") then .error .isDirectory
      else if nameLimit ≤ name.utf8ByteSize then .error .nameTooLong
      else match es.lookup name with
        | none => if rest.isEmpty then .ok (.absent trail name) else .error .noEntry
        | some (.link target) =>
          if rest.isEmpty && aim = .entry then .ok (.present ((name, .link target) :: trail))
          else match links with
            | 0 => .error .tooManyLinks
            | links + 1 =>
              let start := if target.startsWith "/" then top trail else trail
              walk aim links start (Path.pieces target.toList ++ rest)
        | some node => walk aim links ((name, node) :: trail) rest
    | _ => .error .notDirectory
  termination_by names => (links, names.length)

/-- The trail of names that lead through directories. -/
def trailFrom (trail : Trail) : List String → Trail
  | [] => trail
  | name :: rest =>
    match trail with
    | (_, node) :: _ =>
      match node.entry? name with
      | some child => trailFrom ((name, child) :: trail) rest
      | none => trail
    | [] => trail

def homeTrail (t : FileTree) : Trail := trailFrom [("", t.root)] t.home

/-- Where the path leads, if it may be looked up at all. -/
def locate (t : FileTree) (aim : Aim) (p : Path) : Except Refusal Place :=
  if pathLimit ≤ p.text.utf8ByteSize then .error .nameTooLong
  else
    let start := if p.isAbsolute then [("", t.root)] else t.homeTrail
    walk aim linkLimit start p.parts

/-- No file name holds a NUL. -/
def hasNul (p : Path) : Bool := p.text.toList.contains '\x00'

/-- The node that the path leads to. -/
def node? (t : FileTree) (p : Path) : Except Refusal Node :=
  match t.locate .target p with
  | .ok (.present ((_, node) :: _)) => .ok node
  | .ok _ => .error .noEntry
  | .error r => .error r

/-- Whether the path leads to a node of some sort. A path that leads nowhere does not; one that is too long to be
looked up is a fault. -/
def leadsTo (t : FileTree) (sort : Node → Bool) (p : Path) : Except SystemFault Bool :=
  if hasNul p then .ok false
  else match t.node? p with
    | .ok node => .ok (sort node)
    | .error .nameTooLong => .error (Refusal.nameTooLong.on p.text)
    | .error _ => .ok false

def isFile (t : FileTree) (p : Path) : Except SystemFault Bool := t.leadsTo Node.isFile p
def isDirectory (t : FileTree) (p : Path) : Except SystemFault Bool := t.leadsTo Node.isDirectory p
def isThere (t : FileTree) (p : Path) : Except SystemFault Bool := t.leadsTo (fun _ => true) p

/-- The content of the file that the path leads to. -/
def read (t : FileTree) (p : Path) : Except SystemFault (List UInt8) :=
  match t.node? p with
  | .ok (.file content _) => .ok content
  | .ok _ => .error (Refusal.isDirectory.on p.text)
  | .error r => .error (r.on p.text)

/-- The names that lead from the root to the head of a trail. -/
def namesOf (trail : Trail) : List String := (trail.map Prod.fst).reverse.drop 1

/-- The tree with a node put at the head of a trail, or under a free name. -/
def put (t : FileTree) (names : List String) (node : Node) : FileTree :=
  { t with root := Node.putAt node names t.root }

/-- The tree without the node that names lead to. -/
def remove (t : FileTree) (names : List String) : FileTree := { t with root := Node.removeAt names t.root }

/-- Writes a file, in the place of the one that is there. -/
def write (t : FileTree) (p : Path) (content : List UInt8) (executable : Bool) : Except SystemFault FileTree :=
  match t.locate .file p with
  | .error r => .error (r.on p.text)
  | .ok (.absent above name) => .ok (t.put (namesOf above ++ [name]) (.file content executable))
  | .ok (.present trail) =>
    match trail with
    | (_, .file _ _) :: _ => .ok (t.put (namesOf trail) (.file content executable))
    | _ => .error (Refusal.isDirectory.on p.text)

/-- Makes one directory under a free name. -/
def makeDirectory (t : FileTree) (p : Path) : Except Refusal FileTree :=
  match t.locate .entry p with
  | .error r => .error r
  | .ok (.present _) => .error .alreadyExists
  | .ok (.absent above name) => .ok (t.put (namesOf above ++ [name]) (.directory []))

/-- Makes the directory unless it is there; `fault` is what kept it from being made. -/
def acceptDirectory (t : FileTree) (p : Path) (fault : Refusal) : Except SystemFault Unit :=
  match t.isDirectory p with
  | .ok true => .ok ()
  | .ok false => .error (fault.on p.text)
  | .error f => .error f

/-- Makes a directory and those above it that are missing; `depth` bounds how many are. What is made before a fault
stays. -/
def makeDirectoriesWithin : Nat → FileTree → Path → FileTree × Except SystemFault Unit
  | 0, t, p => (t, acceptDirectory t p .noEntry)
  | depth + 1, t, p =>
    match t.makeDirectory p with
    | .ok t => (t, .ok ())
    | .error .noEntry =>
      if p.parent = p then (t, .error (Refusal.noEntry.on p.text))
      else
        match makeDirectoriesWithin depth t p.parent with
        | (t, .error f) => (t, .error f)
        | (t, .ok ()) =>
          match t.makeDirectory p with
          | .ok t => (t, .ok ())
          | .error r => (t, acceptDirectory t p r)
    | .error r => (t, acceptDirectory t p r)

/-- Makes a directory and those above it that are missing. -/
def makeDirectories (t : FileTree) (p : Path) : FileTree × Except SystemFault Unit :=
  makeDirectoriesWithin (p.parts.length + 1) t p

/-- Puts a symbolic link under a free name. -/
def addLink (t : FileTree) (p : Path) (target : String) : Except SystemFault FileTree :=
  match t.locate .entry p with
  | .error r => .error (r.on p.text)
  | .ok (.present _) => .error (Refusal.alreadyExists.on p.text)
  | .ok (.absent above name) => .ok (t.put (namesOf above ++ [name]) (.link target))

/-- A tree with nothing but the way to an empty working directory. -/
def ofHome (home : List String) : FileTree :=
  ⟨home.foldr (fun name node => .directory [(name, node)]) (.directory []), home⟩

end FileTree
end LintRun
