import Mathlib
import LintRun.Proofs.Files.Path
import LintRun.Proofs.Shell.Field
import LintRun.Proofs.Shell.Line
import LintRun.Proofs.Shell.Sourcing
import LintRun.Proofs.Toolchain.Resolver

/-!
# Proofs — Toolchain — Scripts

The scripts of a resolution hold their commands and nothing else, whatever characters the names in
them are made of. The first of these commands sources the setup script by its path.

* `Command.Calls`, `Command.CallsOrLeaves`: a command with certain texts as its words, and one that
  leaves the shell if it fails.
* `sourceLine`, `listLine`, `setUpLine`, `printLine`: the lines of the scripts.
* `Resolver.scripts_read_as_fixed_commands`: a shell reads each script as its fixed commands, with
  each name as one word.
* `Resolver.scripts_source_setup_file`: which file a shell reads in for this path.
-/

namespace LintRun

namespace Shell

/-- A simple command with certain texts as its words: each word stands for one of them. -/
def Command.Calls (texts : List String) (redirects : List Redirect) (c : Command) : Prop :=
  ∃ line words, c = .simple line [] (words.map .word) redirects ∧
    List.Forall₂ Word.StandsFor words texts

/-- A command with certain texts as its words and its output where errors go; the shell is left with
its status if it fails. -/
def Command.CallsOrLeaves (texts : List String) (c : Command) : Prop :=
  ∃ first line exit, c = .either first (.simple line [] [.word exit, .word statusWord] []) ∧
    first.Calls texts [outputToErrors] ∧ exit.StandsFor "exit"

end Shell

namespace Resolver

open Shell

/-- The names of the commands in a script. -/
def commandNames : List String := [".", "exit", "ups", "setup", "env"]

theorem isCommandName {name : String} (h : name ∈ commandNames) : IsCommandName name.toList := by
  simp only [commandNames, List.mem_cons, List.not_mem_nil, or_false] at h
  rcases h with rfl | rfl | rfl | rfl | rfl <;>
    exact ⟨by decide, by decide, by decide, fun d => by cases d <;> decide⟩

variable {name : String} {texts : List String} {redirected : Bool} {c : Command}

/-- A command with certain texts behind its name, and its output where errors go if that is
wanted. -/
def call (name : String) (texts : List String) (redirected : Bool) (hname : name ∈ commandNames)
    (hne : texts ≠ []) :
    Call where
  name := name.toList
  parts := texts.map (Written.text ·.toList) ++ if redirected then [.toErrors] else []
  isName := isCommandName hname
  parts_ne := by simp [hne]

/-- The command that leaves a shell with the status of the last command. -/
def leave : Call where
  name := "exit".toList
  parts := [.status]
  isName := isCommandName (by decide)
  parts_ne := List.cons_ne_nil _ _

/-- Each word of a command stands for the text that it is written for. -/
theorem calls_of_means (hname : name ∈ commandNames) (hne : texts ≠ [])
    (h : (call name texts redirected hname hne).Means c) :
    c.Calls (name :: texts) (if redirected then [outputToErrors] else []) := by
  obtain ⟨line, rfl⟩ := h
  have harguments : (call name texts redirected hname hne).parts.filterMap Written.argument? =
      (texts.map (Word.quoting ·.toList)).map Argument.word := by
    simp only [call, List.filterMap_append, List.filterMap_map, List.map_map]
    cases redirected <;> simp [Written.argument?, Function.comp_def]
  have hredirects : (call name texts redirected hname hne).parts.filterMap Written.redirect? =
      if redirected then [outputToErrors] else [] := by
    simp only [call, List.filterMap_append, List.filterMap_map]
    cases redirected <;> simp [Written.redirect?, Function.comp_def]
  refine ⟨line, .quoting name.toList :: texts.map (Word.quoting ·.toList), ?_, ?_⟩
  · rw [harguments, hredirects]
    rfl
  · rw [← List.map_cons (f := fun t : String => Word.quoting t.toList),
      List.forall₂_map_left_iff, List.forall₂_same]
    exact fun t _ => Word.quoting_toList_standsFor t

theorem callsOrLeaves_of_means (hname : name ∈ commandNames) (hne : texts ≠ [])
    (h : Line.Means { call := call name texts true hname hne, orElse := some leave } c) :
    c.CallsOrLeaves (name :: texts) := by
  obtain ⟨first, second, rfl, hfirst, line, rfl⟩ := h
  exact ⟨first, line, .quoting "exit".toList, rfl, calls_of_means hname hne hfirst,
    Word.quoting_toList_standsFor "exit"⟩

/-! ### The lines of the scripts -/

/-- The line that sources the setup script of a products directory. -/
def sourceLine (products : Path) : Line where
  call := call "." [(setupFile products).text] true (by decide) (List.cons_ne_nil _ _)
  orElse := some leave

/-- The line that lists the versions of a product. -/
def listLine (product : String) : Line where
  call := call "ups" ["list", "-aK+", product] false (by decide) (List.cons_ne_nil _ _)

/-- The line that sets up a version of a product. -/
def setUpLine (product version : String) : Line where
  call := call "setup" [product, version] true (by decide) (List.cons_ne_nil _ _)
  orElse := some leave

/-- The line that prints the environment. -/
def printLine : Line where
  call := call "env" ["-0"] false (by decide) (List.cons_ne_nil _ _)

theorem names_subset (products : Path) (product version : String) :
    ∀ line ∈ [sourceLine products, listLine product, setUpLine product version, printLine],
      line.names ⊆ commandNames := by
  simp [sourceLine, listLine, setUpLine, printLine, Line.names, call, leave, commandNames]

theorem toList_quoteWord (text : String) : (quoteWord text).toList = quoteChars text.toList := by
  rw [quoteWord, String.toList_ofList]

theorem chars_sourceLine (products : Path) :
    (sourceLine products).chars =
      (". " ++ quoteWord (setupFile products).text ++ " 1>&2 || exit $?").toList := by
  simp [sourceLine, Line.chars, Call.chars, call, leave, Written.chars, toList_quoteWord]

theorem chars_listLine (product : String) :
    (listLine product).chars = (listCommand product).toList := by
  have hlist : quoteChars ['l', 'i', 's', 't'] = ['l', 'i', 's', 't'] := by decide
  have hflag : quoteChars ['-', 'a', 'K', '+'] = ['-', 'a', 'K', '+'] := by decide
  simp [listLine, Line.chars, Call.chars, call, Written.chars, listCommand, toList_quoteWord, hlist,
    hflag]

theorem chars_setUpLine (product version : String) :
    [(setUpLine product version).chars, printLine.chars] =
      (setupCommands product version).map String.toList := by
  have hflag : quoteChars ['-', '0'] = ['-', '0'] := by decide
  simp [setUpLine, printLine, Line.chars, Call.chars, call, leave, Written.chars, setupCommands,
    toList_quoteWord, hflag]

/-- Texts with line ends between them are one below the other. -/
theorem toList_joinWith_newline (text : String) (texts : List String) :
    (Text.joinWith "\n" (text :: texts)).toList = text.toList ++ texts.flatMap
      fun t => '\n' :: t.toList := by
  induction texts generalizing text with
  | nil => simp [Text.joinWith]
  | cons next texts ih => simp [Text.joinWith, ih]

/-- A script is written from its lines, the one that sources the setup script first. -/
theorem toList_script (products : Path) {commands : List String} {lines : List Line}
    (h : lines.map Line.chars = commands.map String.toList) :
    (script products commands).toList = (sourceLine products).chars ++ Line.below lines := by
  have hbelow : commands.flatMap (fun t => '\n' :: t.toList) = Line.below lines := by
    rw [Line.below, ← List.flatMap_map Line.chars, h, List.flatMap_map]
  rw [script, toList_joinWith_newline, hbelow, chars_sourceLine]

/-! ### What the scripts are read as -/

/-- A script is read as what its lines mean. -/
theorem script_readsAs (products : Path) {commands : List String} {lines : List Line}
    (h : lines.map Line.chars = commands.map String.toList)
    (hnames : ∀ line ∈ lines, line.names ⊆ commandNames) {kinds : List (Command → Prop)}
    (hkinds : List.Forall₂ (fun kind other => ∀ c, kind c → other c) (lines.map Line.Means) kinds) :
    ReadsAs commandNames (script products commands)
      (Command.CallsOrLeaves [".", (setupFile products).text] :: kinds) := by
  have hall : ∀ line ∈ sourceLine products :: lines, line.names ⊆ commandNames := by
    rintro line (_ | ⟨_, hline⟩)
    · exact names_subset products "" "" _ List.mem_cons_self
    · exact hnames line hline
  exact (Line.readsAs _ _ hall (toList_script products h)).imp
    (.cons (fun _ => callsOrLeaves_of_means (by decide) (List.cons_ne_nil _ _)) hkinds)

/-- The script that sets up a products directory. -/
theorem setUpScript_readsAs (products : Path) :
    ReadsAs commandNames (script products [])
      [Command.CallsOrLeaves [".", (setupFile products).text]] :=
  @script_readsAs products [] [] rfl (by simp) _ .nil

/-- The script that lists the versions of a product. -/
theorem listScript_readsAs (products : Path) (product : String) :
    ReadsAs commandNames (script products [listCommand product])
      [Command.CallsOrLeaves [".", (setupFile products).text],
        Command.Calls ["ups", "list", "-aK+", product] []] := by
  have hnames : ∀ line ∈ [listLine product], line.names ⊆ commandNames := fun line hline =>
    names_subset products product "" line (by simp_all)
  exact script_readsAs products (by simp [chars_listLine]) hnames
    (.cons (fun _ => calls_of_means (by decide) (List.cons_ne_nil _ _)) .nil)

/-- The script that sets up a version and prints the environment. -/
theorem activationScript_readsAs (products : Path) (product version : String) :
    ReadsAs commandNames (script products (setupCommands product version))
      [Command.CallsOrLeaves [".", (setupFile products).text],
        Command.CallsOrLeaves ["setup", product, version], Command.Calls ["env", "-0"] []] := by
  have hnames : ∀ line ∈ [setUpLine product version, printLine], line.names ⊆ commandNames :=
    fun line hline =>
    names_subset products product version line (by simp_all)
  exact script_readsAs products (by simp [chars_setUpLine]) hnames
    (.cons (fun _ => callsOrLeaves_of_means (by decide) (List.cons_ne_nil _ _))
      (.cons (fun _ => calls_of_means (by decide) (List.cons_ne_nil _ _)) .nil))

variable {r : Resolver} {products : Path} {before : Nat} {outcome : Outcome Toolchain}
  {scripts : List String}
  {last : Toolchain}

/-- Of the three scripts a resolution runs the first ones, with a version that it has chosen. -/
theorem Ends.scripts_prefix (h : r.Ends products before outcome scripts last) :
    ∃ version, scripts <+: [script products [], script products [listCommand r.product],
      script products (setupCommands r.product version)] := by
  cases h with
  | untested | noScript | setupNotStarted | setupFailed | listingNotStarted | noneListed |
    notListed | unordered =>
    exact ⟨"", by simp⟩
  | activationNotStarted | activationFailed | active => exact ⟨_, List.prefix_refl _⟩

/-- **No name smuggles a command into a script.** A resolution runs nothing but the first ones of
three scripts. Whatever characters the path, the product and the version are made of, a shell reads
each of these, line by line, as its fixed commands, with each name as one word that stands for it
and for nothing else. -/
theorem scripts_read_as_fixed_commands (r : Resolver) (products : Path) (s : Session) :
    (∃ version scripts, ((r.resolve products).run s).2.scripts = s.scripts ++ scripts ∧
      scripts <+: [script products [], script products [listCommand r.product],
        script products (setupCommands r.product version)]) ∧
    ReadsAs commandNames (script products [])
      [Command.CallsOrLeaves [".", (setupFile products).text]] ∧
    ReadsAs commandNames (script products [listCommand r.product])
      [Command.CallsOrLeaves [".", (setupFile products).text],
        Command.Calls ["ups", "list", "-aK+", r.product] []] ∧
    ∀ version, ReadsAs commandNames (script products (setupCommands r.product version))
      [Command.CallsOrLeaves [".", (setupFile products).text],
        Command.CallsOrLeaves ["setup", r.product, version], Command.Calls ["env", "-0"] []] := by
  refine ⟨?_, setUpScript_readsAs products, listScript_readsAs products r.product,
    activationScript_readsAs products r.product⟩
  obtain ⟨scripts, last, hends, hscripts, -⟩ := resolve_ends r products s
  obtain ⟨version, hprefix⟩ := hends.scripts_prefix
  exact ⟨version, scripts, hscripts, hprefix⟩

/-! ### The setup script and what is sourced -/

/-- Scripts are run exactly if the setup script was found to be a file. -/
theorem Ends.scripts_ne_nil_iff (h : r.Ends products before outcome scripts last) :
    scripts ≠ [] ↔ r.tree.isFile (setupFile products) = .ok true := by
  cases h with
  | untested h | noScript h => simp [h]
  | setupNotStarted h | setupFailed h => exact iff_of_true (List.cons_ne_nil _ _) h
  | listingNotStarted h => exact iff_of_true (List.cons_ne_nil _ _) h.1
  | noneListed h | notListed _ h | unordered _ h => exact iff_of_true (List.cons_ne_nil _ _) h.1.1
  | activationNotStarted h | activationFailed h | active h =>
    obtain ⟨versions, -, hlists, -⟩ := h
    exact iff_of_true (List.cons_ne_nil _ _) hlists.1.1

/-- Every script begins with sourcing the setup script. -/
theorem Ends.sources (h : r.Ends products before outcome scripts last) {text : String}
    (htext : text ∈ scripts) :
    ∃ others, ReadsAs commandNames text
      (Command.CallsOrLeaves [".", (setupFile products).text] :: others) := by
  obtain ⟨version, hprefix⟩ := h.scripts_prefix
  have hmem := hprefix.subset htext
  simp only [List.mem_cons, List.not_mem_nil, or_false] at hmem
  obtain rfl | rfl | rfl := hmem
  · exact ⟨_, setUpScript_readsAs products⟩
  · exact ⟨_, listScript_readsAs products r.product⟩
  · exact ⟨_, activationScript_readsAs products r.product version⟩

/-- The path of the setup script has a slash unless the products directory is the working
directory. -/
theorem slash_mem_setupFile : '/' ∈ (setupFile products).text.toList ↔ products ≠ Path.here := by
  rw [setupFile, Path.text_child]
  split
  · next h => exact iff_of_false (by decide) (not_not.2 h)
  split
  · next hhere hparts =>
    obtain ⟨root, parts⟩ := products
    obtain rfl : parts = [] := hparts
    cases root with
    | relative => exact absurd rfl hhere
    | absolute | doubled => exact iff_of_true (by decide) hhere
  · next hhere _ => simp [hhere]

/-- It begins as the path of the products directory does. -/
theorem head?_setupFile (hproducts : products.IsNormal) (hhere : products ≠ Path.here) :
    (setupFile products).text.toList.head? = products.text.toList.head? := by
  have hne : products.text.toList ≠ [] :=
    fun h => Path.text_ne_empty hproducts (String.toList_eq_nil_iff.1 h)
  obtain ⟨first, rest, hlist⟩ := List.exists_cons_of_ne_nil hne
  rw [setupFile, Path.text_child, if_neg hhere]
  split <;> simp [hlist]

theorem getLast?_setupFile (products : Path) :
    (setupFile products).text.toList.getLast? = some 'p' := by
  rw [setupFile, Path.text_child]
  split
  · decide
  split <;> simp [List.getLast?_append]

/-- It begins with a dash exactly if the path of the products directory does, and is never a dash or
two alone. -/
theorem isOption_setupFile (hproducts : products.IsNormal) :
    (isOption (setupFile products).text = true ↔ products.text.toList.head? = some '-') ∧
      (setupFile products).text ≠ "--" := by
  have hlast := getLast?_setupFile products
  have hne {other : String} (h : other.toList.getLast? ≠ some 'p') :
      (setupFile products).text ≠ other := by
    rintro rfl
    exact h hlast
  refine ⟨?_, hne (by decide)⟩
  rw [isOption_iff, and_iff_left (hne (by decide))]
  by_cases hhere : products = Path.here
  · subst hhere
    decide
  · rw [head?_setupFile hproducts hhere]

/-- **Which file the scripts source.** A resolution runs scripts exactly if it has found the setup
script to be a file, and a shell reads each of them as one that begins with sourcing the path of
this file. In this path there is a slash unless the products directory is the working directory, and
a dash at its front exactly if there is one at the front of the products directory. So a shell that
sees the same files reads in the setup script that was found, but for two cases: in the working
directory it reads in what is found first on its search path, and the setup script only if there is
nothing; and what has a dash at its front it takes for an option. -/
theorem scripts_source_setup_file (r : Resolver) (products : Path) (hproducts : products.IsNormal)
    (s : Session) :
    let operand := (setupFile products).text
    ∃ scripts, ((r.resolve products).run s).2.scripts = s.scripts ++ scripts ∧
      (scripts ≠ [] ↔ r.tree.isFile (setupFile products) = .ok true) ∧
      (∀ text ∈ scripts, ∃ others,
        ReadsAs commandNames text (Command.CallsOrLeaves [".", operand] :: others)) ∧
      Path.ofString operand = setupFile products ∧
      ('/' ∈ operand.toList ↔ products ≠ Path.here) ∧
      (isOption operand = true ↔ products.text.toList.head? = some '-') ∧
      (scripts ≠ [] → (∀ c ∈ operand.toList, Encoding.byte? c = none) →
        ∀ σ : State, σ.dialect = .bash → σ.tree = r.tree →
        (products ≠ Path.here → products.text.toList.head? ≠ some '-' →
          σ.ReadsIn operand (setupFile products)) ∧
        (products.text.toList.head? = some '-' → σ.TakesForOption operand) ∧
        (products = Path.here → ∀ content executable,
          σ.tree.node? (pathOf (σ.searched operand)) = .ok (.file content executable) →
            σ.ReadsIn operand (pathOf (σ.searched operand)))) := by
  intro operand
  obtain ⟨scripts, last, hends, hscripts, -⟩ := resolve_ends r products s
  obtain ⟨hdash, hdashes⟩ := isOption_setupFile hproducts
  have hsetup : (setupFile products).IsNormal := hproducts.child (by decide)
  have hpath : Path.ofString operand = setupFile products := Path.ofString_text hsetup
  refine ⟨scripts, hscripts, hends.scripts_ne_nil_iff, fun text htext => hends.sources htext, hpath,
    slash_mem_setupFile, hdash,
    fun hne hplain σ hbash htree => ⟨fun hhere hfirst => ?_, fun hfirst => ?_,
      fun hhere content executable hnode => ?_⟩⟩
  · have hoperand : pathOf operand = setupFile products := by
      rw [pathOf, Encoding.visible_eq_self hplain, hpath]
    obtain ⟨content, executable, hnode⟩ := FileTree.node?_of_isFile (hends.scripts_ne_nil_iff.1 hne)
    rw [← htree, ← hoperand] at hnode
    exact hoperand ▸ State.readsIn_of_slash hbash (Bool.eq_false_iff.2 fun h => hfirst (hdash.1 h))
      (slash_mem_setupFile.2 hhere)
      (.of_getLast? (getLast?_setupFile products) (by decide) (by decide)) hnode
  · exact State.takesForOption_of_isOption hbash (hdash.2 hfirst) hdashes
  · subst hhere
    have hlast : (σ.searched operand).toList.getLast? = some 'p' :=
      (σ.getLast?_searched (Path.text_ne_empty hsetup)).trans (getLast?_setupFile Path.here)
    exact State.readsIn_of_name hbash (Bool.eq_false_iff.2 fun h => absurd (hdash.1 h) (by decide))
      (fun h => slash_mem_setupFile.1 h rfl) (.of_getLast? hlast (by decide) (by decide)) hnode

/-- The setup script of a directory is read in by its path. -/
theorem scripts_source_setup_file_of_directory :
    let products : Path := ⟨.relative, ["p"]⟩
    let r : Resolver :=
      { shell := fun _ _ _ => .ok {},
        tree := ⟨.directory [("p", .directory [("setup", .file [] false)])], []⟩ }
    let σ : State := { dialect := .bash, name := "bash", tree := r.tree }
    ((r.resolve products).run {}).2.scripts ≠ [] ∧ '/' ∈ "p/setup".toList ∧
      σ.ReadsIn "p/setup" (setupFile products) := by
  intro products r σ
  have hfile : r.tree.isFile (setupFile products) = .ok true :=
    FileTree.leadsTo_of_find? Node.isFile (.file [] false) (.inr rfl) (by decide)
      (by decide) (by decide) rfl
  obtain ⟨scripts, hscripts, hran, -, -, hslash, -, hreads⟩ :=
    scripts_source_setup_file r products (by decide) {}
  have hne : scripts ≠ [] := hran.2 hfile
  have hascii : (setupFile products).text.toList.all (·.toNat < 128) = true := by decide
  have hplain (c) (hc : c ∈ (setupFile products).text.toList) : Encoding.byte? c = none :=
    Encoding.byte?_of_ascii (of_decide_eq_true (List.all_eq_true.1 hascii c hc))
  have hreads := hreads hne hplain σ rfl rfl
  exact ⟨hscripts ▸ hne, hslash.2 (by decide), hreads.1 (by decide) (by decide)⟩

/-- **The search path hides the setup script of the working directory**: it is found and sourced by
its path, in which there is no slash, so that a shell reads in another file of this name. -/
theorem search_path_hides_setup_file :
    let r : Resolver :=
      { shell := fun _ _ _ => .ok {}
        tree := ⟨.directory [("setup", .file [] false),
          ("bin", .directory [("setup", .file [58] false)])], []⟩ }
    let σ : State :=
      { dialect := .bash, name := "bash", bindings := [("PATH", Variable.ofText "bin")],
        tree := r.tree }
    r.tree.isFile (setupFile .here) = .ok true ∧
      script .here [] ∈ ((r.resolve .here).run {}).2.scripts ∧
      ReadsAs commandNames (script .here []) [Command.CallsOrLeaves [".", "setup"]] ∧
      '/' ∉ "setup".toList ∧
      σ.ReadsIn "setup" ⟨.relative, ["bin", "setup"]⟩ := by
  intro r σ
  have hfile : r.tree.isFile (setupFile .here) = .ok true :=
    FileTree.leadsTo_of_find? Node.isFile (.file [] false) (.inr rfl) (by decide)
      (by decide) (by decide) rfl
  have hran : script .here [] ∈ ((r.resolve .here).run {}).2.scripts := by
    simp only [resolve, Stateful.run_bind, run_remember, setUp, hfile, run_run]
    cbv
    exact .head _
  have hsearched : σ.searched "setup" = "bin/setup" := by cbv
  have hpath : pathOf (σ.searched "setup") = ⟨.relative, ["bin", "setup"]⟩ := by
    rw [hsearched]
    cbv
  have hnode : σ.tree.node? (pathOf (σ.searched "setup")) = .ok (.file [58] false) := by
    rw [hpath]
    exact FileTree.node?_of_find? _ (.inr rfl) (by decide) (by decide) rfl
  have htree : IsTreePath (σ.searched "setup") := by
    rw [hsearched]
    exact .of_getLast? (show _ = some 'p' by decide) (by decide) (by decide)
  have hoption : isOption "setup" = false :=
    Bool.eq_false_iff.2 fun h => absurd (isOption_iff.1 h).1 (by decide)
  exact ⟨hfile, hran, setUpScript_readsAs .here, by decide,
    hpath ▸ State.readsIn_of_name rfl hoption (by decide) htree hnode⟩

end Resolver
end LintRun
