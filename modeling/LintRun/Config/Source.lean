import LintRun.Config.Assign
import LintRun.Files.Tree
import LintRun.Document.Reader

/-!
# Config — Sources

Where a configuration comes from: a file found by its name, read as a document, and of a document that is a
list the entry that carries a tag.

* `Source.find`: the file of a name.
* `Source.read`: the document in it.
* `Source.entry`: the mapping for a tag.
* `Config.load`: the settings.
* `Config.shippedText`: the file that comes with the tool.
-/

namespace LintRun

namespace Config

/-! ### The shipped file -/

/-- The name of the shipped file. -/
def defaultName : String := "tidy_config.json"

/-- One entry of the shipped file. -/
def shippedEntry (tag jobs timeout : String) : List String :=
  ["  \x7b",
    "    \"tags\": [\"" ++ tag ++ "\"],",
    "    \"products_dir\": \"/cvmfs/fermilab.opensciencegrid.org/products/larsoft\",",
    "    \"toolchain_product\": \"clang\",",
    "    \"analyzer\": \"clang-tidy\",",
    "    \"header_filter\": \".*\",",
    "    \"source_extensions\": [\".cc\"],",
    "    \"header_extensions\": [\".hh\"],",
    "    \"jobs\": " ++ jobs ++ ",",
    "    \"timeout_seconds\": " ++ timeout ++ ",",
    "    \"fail_fast\": false"]

/-- The text of the shipped file. -/
def shippedText : String :=
  Text.joinWith "\n"
    (["["] ++ shippedEntry "default" "1" "null" ++ ["  \x7d,"] ++ shippedEntry "ci" "4" "600" ++
      ["  \x7d", "]", ""])

end Config

/-! ### Files and their entries -/

/-- Where configurations are looked for. -/
structure Source where
  tree : FileTree
  directory : Path := .ofString "config"

namespace Source

def onTree : Except SystemFault α → Outcome α
  | .ok x => .ok x
  | .error f => stop (.system f)

/-- The file of a name: seen from the working directory, else from the configuration directory. -/
def find (s : Source) (name : String) : Outcome Path := do
  let near := Path.ofString name
  let found ← if near.isAbsolute then .ok near
    else do if ← onTree (s.tree.isThere near) then .ok near else .ok (s.directory.join near)
  if ← onTree (s.tree.isThere found) then .ok found
  else stop (.missingConfig name found)

/-- The text of a file. -/
def textOf (s : Source) (file : Path) : Outcome (List Char) :=
  match s.tree.read file with
  | .error f => report (.configuration (.unreadable file (.system f)))
  | .ok bytes =>
    match Utf8.decode bytes with
    | .error f => report (.configuration (.unreadable file (.encoding f)))
    | .ok text => .ok (Text.normalizeNewlines text)

/-- The document in a file. -/
def read (s : Source) (name : String) : Outcome Value := do
  let file ← s.find name
  let text ← s.textOf file
  match Document.read (Document.formatOf file) text with
  | .ok v => .ok v
  | .error (.malformed cause) => report (.configuration (.unparsable file cause))
  | .error (.scalar f) => stop (.scalar f)

/-- Whether a tag is among the tags of an entry: an item of a list, a key of a mapping, a part of a text. -/
def hasTag (tag : String) (tags : Value) : Except KindFault Bool :=
  match tags.opened with
  | .list items | .tuple items | .set items => .ok (items.any fun v => Value.sameKey v (.str tag))
  | .map entries => .ok (entries.any fun (k, _) => Value.sameKey k (.str tag))
  | .bytes _ => .error .bytesExpected
  | v =>
    match v.codes? with
    | some text => .ok (Text.occursIn (Text.codesOf tag.toList) text)
    | none => .error (.notSearchable v.kindName)

/-- The first mapping with the tag. Items that are no mappings are passed over. -/
def tagged? (tag : String) : List Value → Except KindFault (Option (List (Value × Value)))
  | [] => .ok none
  | item :: rest =>
    match item.opened with
    | .map entries => do
      if ← hasTag tag ((Value.lookup? "tags" entries).getD (.list [])) then .ok (some entries)
      else tagged? tag rest
    | _ => tagged? tag rest

/-- The entry of a list: the one with the tag, else the first one. -/
def choose (name tag : String) (items : List Value) : Outcome (List (Value × Value)) :=
  match items with
  | [] => report (.configuration (.emptyList name))
  | first :: _ =>
    match tagged? tag items with
    | .error f => stop (.kind f)
    | .ok (some entries) => .ok entries
    | .ok none =>
      match first.opened with
      | .map entries => .ok entries
      | _ => report (.configuration (.entryNotMapping name))

/-- The mapping of a file for a tag. An empty document is an empty mapping. -/
def entry (s : Source) (name tag : String) : Outcome (List (Value × Value)) := do
  match (← s.read name).opened with
  | .list items => choose name tag items
  | .null => .ok []
  | .map entries => .ok entries
  | _ => report (.configuration (.notMapping name))

/-- The name to load: the one given, else the default name if the configuration directory has it. -/
def nameToLoad (s : Source) : Option String → Outcome (Option String)
  | some name => .ok (some name)
  | none => do
    if ← onTree (s.tree.isThere (s.directory.child Config.defaultName)) then .ok (some Config.defaultName)
    else .ok none

end Source

/-- The settings that a file gives for a tag. Without a name the default file is taken, and without that file
every setting has its default. -/
def Config.load (s : Source) (name : Option String) (tag : String) : Outcome Config := do
  match ← s.nameToLoad name with
  | none => .ok {}
  | some name => Config.assignAll {} (← s.entry name tag)

end LintRun
