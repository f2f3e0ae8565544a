import Mathlib
import LintRun.Proofs.Failure.Outcome
import LintRun.Proofs.Text.Utf8
import LintRun.Shell.Invoke

/-!
# Proofs — Shell — Files that are read in

Which file a shell reads in, when it is told to by an operand.

* `Encoding.visible_eq_self`: texts without lone bytes are seen as they are.
* `State.ReadsIn`: a shell reads in this file for an operand. `State.TakesForOption`: it takes the
  operand for an option that it does not know.
* `State.readsIn_of_slash`: an operand with a slash is a path.
* `State.readsIn_of_name`: one without a slash is looked for in the directories of the search path
  first.
* `State.takesForOption_of_isOption`: one with a dash at its front is an option.
-/

namespace LintRun.Shell

/-! ### Texts that are paths -/

theorem Encoding.byte?_of_ascii {c : Char} (h : c.toNat < 128) : byte? c = none :=
  if_neg fun hbyte => absurd (Nat.le_of_add_left_le hbyte) (Nat.not_le.2 h)

/-- A text that stands for no odd bytes is encoded as UTF-8. -/
theorem Encoding.encode_eq_utf8 {text : List Char} (h : ∀ c ∈ text, byte? c = none) :
    encode text = text.flatMap String.utf8EncodeChar := by
  refine List.flatMap_congr fun c hc => ?_
  rw [encodeChar, h c hc]
  by_cases hascii : c.toNat < 128
  · have hone : c.val.toNat ≤ 127 := Nat.lt_succ_iff.1 hascii
    simp only [String.utf8EncodeChar, if_pos hone, if_pos hascii]
    rfl
  · simp only [if_neg hascii]
    rw [Utf8.toList_toUTF8, String.toList_singleton, List.flatMap_singleton]

/-- **A text in which no character stands for a lone byte** is seen as it is. -/
theorem Encoding.visible_eq_self {text : String} (h : ∀ c ∈ text.toList, byte? c = none) :
    visible text = text := by
  rw [visible, encode_eq_utf8 h, Utf8.decodeLossy_encode, String.ofList_toList, ite_self]

/-- A text that is a path in the tree of files, if anything: not the path of a device, nor of a
directory. -/
structure IsTreePath (path : String) : Prop where
  nonempty : path ≠ ""
  noDescriptor : descriptorPath? path = none
  noDevice : path ∉ ["/dev/null", "/dev/zero", "/etc/passwd"]
  noSlash : path.endsWith "/" = false

variable {s : State} {path operand : String} {content : List UInt8} {executable : Bool}
  {file : Path} {c : Char}

/-- The last characters of the paths of devices, but for the numbers of descriptors, and of
directories. -/
def reservedEndings : List Char := "/lodntr".toList

theorem ne_of_ending (hlast : path.toList.getLast? = some c) (hc : c ∉ reservedEndings)
    {other : String} (hother : other.toList.getLast?.any reservedEndings.contains) :
    path ≠ other := by
  rintro rfl
  simp [hlast, hc] at hother

/-- A text that does not end like the path of a device leads to no descriptor. -/
theorem descriptorPath?_eq_none (hlast : path.toList.getLast? = some c) (hc : c ∉ reservedEndings)
    (hdigit : Text.isAsciiDigit c = false) : descriptorPath? path = none := by
  rw [descriptorPath?]
  · split
    · -- what stands behind the directory of descriptors ends as the text does, not in a digit
      refine if_neg fun hnumber => ?_
      simp only [Bool.and_eq_true, Bool.not_eq_true', List.isEmpty_eq_false_iff,
        List.all_eq_true] at hnumber
      obtain ⟨hsome, hdigits⟩ := hnumber
      have hmem : c ∈ path.toList.drop 8 := by
        refine List.mem_of_getLast? ?_
        rw [List.getLast?_drop, if_neg (by simpa using hsome), hlast]
      rw [hdigits c hmem] at hdigit
      cases hdigit
    · rfl
  · exact ne_of_ending hlast hc (by decide)
  · exact ne_of_ending hlast hc (by decide)
  · exact ne_of_ending hlast hc (by decide)

/-- A path is looked up in the tree if it ends as none of the reserved ones does. -/
theorem IsTreePath.of_getLast? (hlast : path.toList.getLast? = some c) (hc : c ∉ reservedEndings)
    (hdigit : Text.isAsciiDigit c = false) : IsTreePath path := by
  constructor
  case nonempty =>
    rintro rfl
    simp at hlast
  case noDescriptor => exact descriptorPath?_eq_none hlast hc hdigit
  case noDevice =>
    simp only [List.mem_cons, List.not_mem_nil, or_false, not_or]
    exact ⟨ne_of_ending hlast hc (by decide), ne_of_ending hlast hc (by decide),
      ne_of_ending hlast hc (by decide)⟩
  case noSlash =>
    rw [← String.endsWith_toSlice, String.Slice.endsWith_string_eq_false_iff, String.copy_toSlice]
    rintro ⟨front, hfront⟩
    rw [← hfront] at hlast
    obtain rfl : '/' = c := by simpa using hlast
    exact hc (by decide)

/-- A file of the tree is a file for the shell. -/
theorem fileKind?_of_node? (hpath : IsTreePath path)
    (hnode : s.tree.node? (pathOf path) = .ok (.file content executable)) :
    fileKind? s.tree path = some (.file content.length executable) := by
  simp [fileKind?, hpath.nonempty, hnode, hpath.noSlash]

/-- A file of the tree is read as it is. -/
theorem readFile_of_node? (hpath : IsTreePath path)
    (hnode : s.tree.node? (pathOf path) = .ok (.file content executable)) :
    (readFile path).run s = (.ok (.ok content), s) := by
  have hdevices := hpath.noDevice
  simp only [List.mem_cons, List.not_mem_nil, or_false, not_or] at hdevices
  simp [readFile, hpath.noDescriptor, hdevices, hnode, hpath.noSlash]

/-! ### Options -/

/-- An operand is an option when it starts with a dash, and is more than one. -/
theorem isOption_iff :
    isOption operand = true ↔ operand.toList.head? = some '-' ∧ operand ≠ "-" := by
  rw [isOption, Bool.and_eq_true, String.startsWith_string_iff, decide_eq_true_iff]
  cases operand.toList <;> simp [eq_comm]

/-- What is not an option is a word. -/
theorem options_word (name : String) (h : isOption operand = false) :
    options name "" [operand] = pure (some ([], [operand])) := by
  have hdashes : operand ≠ "--" := by
    rintro rfl
    exact Bool.eq_false_iff.1 h (isOption_iff.2 (by decide))
  have hflags : takeFlags "".toList false ([operand].length + 1) [operand] =
      .ok ([], [operand]) := by
    simp [takeFlags, hdashes, h]
  rw [options, optionsWith, hflags]

/-- What a shell does about an option that a command does not have. -/
def refuseOption (name : String) (letter : Char) : Act Nat := do
  complain (name ++ ": " ++ ("-" ++ String.singleton letter ++ ": invalid option"))
  let _ ← usage name
  pure 2

/-- A command that has no options refuses every one. -/
theorem withOptions_option (name : String) (hbash : s.dialect = .bash)
    (hoption : isOption operand = true) (hdashes : operand ≠ "--") :
    ∃ letter, ∀ act : List Flag → List String → Act Nat,
      (withOptions name "" [operand] act).run s = (refuseOption name letter).run s := by
  obtain ⟨letter, rest, hoperand⟩ : ∃ letter rest, operand.toList = '-' :: letter :: rest := by
    obtain ⟨hhead, hdash⟩ := isOption_iff.1 hoption
    cases hlist : operand.toList with
    | nil => simp [hlist] at hhead
    | cons first more =>
      obtain rfl : first = '-' := by simpa [hlist] using hhead
      cases more with
      | nil => exact absurd (String.toList_inj.1 hlist) hdash
      | cons letter rest => exact ⟨letter, rest, rfl⟩
  refine ⟨letter, fun act => ?_⟩
  have hflags : takeFlags "".toList false ([operand].length + 1) [operand] =
      .error (.unknown false letter) := by
    simp [takeFlags, hdashes, hoption, hoperand, takeLetters]
    rfl
  simp only [withOptions, options, optionsWith, hflags, Stateful.run_bind, Stateful.run_get,
    hbash, refuseOption, Bool.false_eq_true, if_false]
  rcases (complain _).run s with ⟨_ | _, s'⟩
  · rfl
  · rcases hsaid : (usage name).run s' with ⟨_ | _, s''⟩
    · simp [hsaid]
    · simp [hsaid]

/-! ### Reading in -/

/-- What a shell does with what a file holds that it reads in. -/
def takeIn (e : Engine) (path : String) (content : List UInt8) : Act Nat := do
  let s ← get
  if s.isBash && isBinary content then refuse "." (path ++ ": cannot execute binary file") 126
  else
    runFile e path (scriptText s.charset content) []
    pure (← get).status

/-- A shell that is told to read in an operand reads in this file. -/
def State.ReadsIn (s : State) (operand : String) (file : Path) : Prop :=
  ∃ path content executable, pathOf path = file ∧
    s.tree.node? file = .ok (.file content executable) ∧
    ∀ e, (readIn e "." [operand]).run s = (takeIn e path content).run s

/-- A shell that is told to read in an operand takes it for an option, which it does not know. -/
def State.TakesForOption (s : State) (operand : String) : Prop :=
  ∃ letter, ∀ e, (readIn e "." [operand]).run s = (refuseOption "." letter).run s

/-- Whether there is something to be read in behind a path. -/
def isReadable (t : FileTree) (path : String) : Bool :=
  match fileKind? t path with
  | some .folder | none => false
  | some _ => true

/-- The path that a name without a slash stands for: the first one in the directories of the search
path behind which there is something to be read in, and the name itself only if there is none. -/
def State.searched (s : State) (name : String) : String :=
  (((searchDirectories (searchPath s)).map (inDirectory · name)).find? (isReadable s.tree)).getD
    name

namespace State

/-- The file that the search finds is the file that is read in. -/
theorem readsIn_of_filePath? (hbash : s.dialect = .bash) (hoption : isOption operand = false)
    (hfound : filePath? s operand = some path) (hpath : IsTreePath path)
    (hnode : s.tree.node? (pathOf path) = .ok (.file content executable)) :
    s.ReadsIn operand (pathOf path) := by
  refine ⟨path, content, executable, rfl, hnode, fun e => ?_⟩
  simp only [readIn, Stateful.run_bind, Stateful.run_get, hbash, withOptions,
    options_word _ hoption, Stateful.run_pure, hfound, readFile_of_node? hpath hnode, ite_self,
    takeIn]

/-- **An operand with a slash is a path.** -/
theorem readsIn_of_slash (hbash : s.dialect = .bash) (hoption : isOption operand = false)
    (hslash : '/' ∈ operand.toList) (hpath : IsTreePath operand)
    (hnode : s.tree.node? (pathOf operand) = .ok (.file content executable)) :
    s.ReadsIn operand (pathOf operand) := by
  refine readsIn_of_filePath? hbash hoption ?_ hpath hnode
  simp [filePath?, hslash, fileKind?_of_node? hpath hnode]

/-- **An operand without a slash is searched for.** -/
theorem readsIn_of_name (hbash : s.dialect = .bash) (hoption : isOption operand = false)
    (hslash : '/' ∉ operand.toList) (hpath : IsTreePath (s.searched operand))
    (hnode : s.tree.node? (pathOf (s.searched operand)) = .ok (.file content executable)) :
    s.ReadsIn operand (pathOf (s.searched operand)) := by
  refine readsIn_of_filePath? hbash hoption ?_ hpath hnode
  have hkind := fileKind?_of_node? hpath hnode
  have hsearch : filePath? s operand =
      (((searchDirectories (searchPath s)).map (inDirectory · operand)).find?
        (isReadable s.tree)).orElse fun _ =>
        if s.isBash && (fileKind? s.tree operand).isSome then some operand else none := by
    rw [filePath?, if_neg (by simpa using hslash)]
    rfl
  rw [hsearch]
  rw [searched] at hkind ⊢
  cases hfind : ((searchDirectories (searchPath s)).map (inDirectory · operand)).find?
    (isReadable s.tree) with
  | none =>
    rw [hfind] at hkind
    simp [show fileKind? s.tree operand = _ from hkind, State.isBash, hbash]
  | some found => rfl

/-- **An operand with a dash at its front is an option.** -/
theorem takesForOption_of_isOption (hbash : s.dialect = .bash) (hoption : isOption operand = true)
    (hdashes : operand ≠ "--") : s.TakesForOption operand := by
  obtain ⟨letter, hletter⟩ := withOptions_option "." hbash hoption hdashes
  refine ⟨letter, fun e => ?_⟩
  simp only [readIn, Stateful.run_bind, Stateful.run_get, hbash, hletter]

/-- A name that is searched for is the end of the path that it stands for. -/
theorem getLast?_searched (s : State) {name : String} (hname : name ≠ "") :
    (s.searched name).toList.getLast? = name.toList.getLast? := by
  have hend (front : String) : (front ++ name).toList.getLast? = name.toList.getLast? := by
    rw [String.toList_append, List.getLast?_append_of_ne_nil _ (by simpa using hname)]
  rw [searched]
  cases hfind : ((searchDirectories (searchPath s)).map (inDirectory · name)).find?
    (isReadable s.tree) with
  | none => rfl
  | some path =>
    obtain ⟨directory, -, rfl⟩ := List.mem_map.1 (List.mem_of_find?_eq_some hfind)
    rw [Option.getD_some, inDirectory]
    split
    · rfl
    · split <;> exact hend _

end State
end LintRun.Shell
